import ScreenAgent.Archive.Basic
import ScreenAgent.Learning.Learner

namespace ScreenAgent.Archive

/-- Appends a batch; an archive that can not be written stays as it is. -/
def persist (a : Archive) (batch : List Experience) : Except String Unit × Archive :=
  match a.append batch with
  | .ok b => (.ok (), b)
  | .error e => (.error e.message, a)

instance : Sink Archive where
  persist := persist

end ScreenAgent.Archive
