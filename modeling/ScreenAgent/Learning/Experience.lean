import ScreenAgent.Agent.Action
import ScreenAgent.Text.Timestamp
import ScreenAgent.Text.Uuid

namespace ScreenAgent

structure Experience where
  id : Uuid
  snapshot : Snapshot
  action : Action
  outcome : Outcome
  timestamp : Timestamp
  reward : Float

namespace Experience

/-- Reads an experience; one without a reward has the reward zero. -/
def ofJson? (levels : Nat) (j : Json) : Option Experience := do
  if levels = 0 then none
  let r ← j.record? ["id", "snapshot", "action", "outcome", "timestamp", "reward"]
  return {
    id := ← r.required "id" fun j => j.text?.bind fun s => Uuid.ofText? s.toList
    snapshot := ← r.required "snapshot" (Snapshot.ofJson? (levels - 1))
    action := ← r.required "action" (Action.ofJson? (levels - 1))
    outcome := ← r.required "outcome" (Outcome.ofJson? (levels - 1))
    timestamp := ← r.required "timestamp" fun j => j.text?.bind fun s => Timestamp.ofText? s.toList
    reward := ← r.defaulted "reward" 0 Json.real? }

def toJson (e : Experience) : Json :=
  .ofMembers [("id", .text (String.ofList e.id.toText)), ("snapshot", e.snapshot.toJson),
    ("action", e.action.toJson), ("outcome", e.outcome.toJson),
    ("timestamp", .text (String.ofList e.timestamp.toText)),
    ("reward", if e.reward.isFinite then .number (.ofFloat e.reward) else .null)]

end Experience

end ScreenAgent
