import ScreenAgent.CommandLine.Exchange
import ScreenAgent.CommandLine.Session
import Std.Time.DateTime.Timestamp

namespace ScreenAgent.CommandLine

def converse {α : Type} : Dialog α → IO α
  | .done a => return a
  | .invoke arguments next => do
    (← IO.getStderr).putStrLn (requestLine arguments)
    let line ← (← IO.getStdin).getLine
    match Reply.ofLine? line with
    | some reply => converse (next (.ok reply))
    | none => converse (next (.error .notFound))

def content? (path : String) : IO (Option (List UInt8)) := do
  try return some (← IO.FS.readBinFile path).toList
  catch _ => return none

/-- The directory for the program's files of one kind: it stands in the one that a variable names, or
else in one below the home directory. -/
def directory (name fallback : String) : IO String := do
  match ← IO.getEnv name with
  | some base => return base ++ "/ui-agent"
  | none => return (← IO.getEnv "HOME").getD "." ++ fallback ++ "/ui-agent"

/-- Stamps that carry the present time, and identifiers that count on from a random one. -/
def freshStamps : IO (Nat → Stamp) := do
  let start ← IO.rand 0 (1 <<< 128 - 1)
  let now ← Std.Time.Timestamp.now
  let time := Timestamp.ofNanoseconds now.toNanosecondsSinceUnixEpoch.val.toNat
  return fun n => ⟨.ofNat (start + n), time⟩

def environment : IO Environment := do
  let values ← Variables.names.mapM fun name => return (← IO.getEnv name).map (name, ·)
  let file ← content? ".env"
  return {
    given := values.filterMap id
    variableFile := file.bind fun bytes => (Text.Utf8.decode? bytes).map String.ofList
    dataDirectory := ← directory "XDG_DATA_HOME" "/.local/share"
    stamps := ← freshStamps }

def appendTo (path : String) (bytes : List UInt8) : IO Unit := do
  let parent := (path.splitOn "/").dropLast
  if parent.any (· ≠ "") then IO.FS.createDirAll ("/".intercalate parent)
  let handle ← IO.FS.Handle.mk path .append
  handle.write ⟨bytes.toArray⟩

/-- Runs a session with these arguments, prints and saves what it leaves, and answers whether it ended
well. -/
def program (arguments : List String) : IO UInt32 := do
  let settingsDirectory ← directory "XDG_CONFIG_HOME" "/.config"
  let path := settingsDirectory ++ "/" ++ Settings.fileName
  let store : SettingsStore := { file := ← content? path }
  let (error, console) ← converse (run (← environment) store 10000 arguments)
  IO.print console.output
  if console.store ≠ store then
    IO.FS.createDirAll settingsDirectory
    IO.FS.writeBinFile path ⟨(console.store.file.getD []).toArray⟩
  if let some (archive, { entry := .file bytes, .. }) := console.archive then
    appendTo archive bytes
  match error with
  | none => return 0
  | some message =>
    IO.eprintln message
    return 1

end ScreenAgent.CommandLine

def main (arguments : List String) : IO UInt32 := ScreenAgent.CommandLine.program arguments
