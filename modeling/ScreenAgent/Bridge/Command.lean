import ScreenAgent.Bridge.Dialog
import ScreenAgent.Hierarchy.Basic
import ScreenAgent.Text.Blank
import ScreenAgent.Text.Search

namespace ScreenAgent

inductive BridgeError
  | connection (reason : String)
  | commandFailed (reason : String)
  | unexpectedOutput (output : String)
  | malformedHierarchy (error : Hierarchy.DumpError)
deriving DecidableEq

def BridgeError.message : BridgeError → String
  | connection reason => "Connection error: " ++ reason
  | commandFailed reason => "Command execution failed: " ++ reason
  | unexpectedOutput output => "Unexpected output: " ++ output
  | malformedHierarchy error => "Malformed UI hierarchy: " ++ error.message

/-- Why work with the bridge comes to an end: an error, or a coordinate that left its range. -/
inductive Mishap
  | failed (error : BridgeError)
  | overflow
deriving DecidableEq

abbrev Bridge := ExceptT Mishap Dialog

namespace Bridge

/-- What comes of work with the bridge, an error included. -/
def outcome {α : Type} (b : Bridge α) : Dialog (Except Mishap α) := ExceptT.run b

def attempt {α : Type} (b : Bridge α) : Bridge (Except Mishap α) := ExceptT.lift b.outcome

def fail {α : Type} (e : BridgeError) : Bridge α := throw (.failed e)

/-- A value that is there unless a coordinate left its range. -/
def within {α : Type} : Option α → Bridge α
  | some a => pure a
  | none => throw .overflow

/-- The error text of a command that ended with a status other than zero. The device is not part of
it. -/
def failureText (arguments : List String) (r : Reply) : String :=
  "adb " ++ " ".intercalate arguments ++ " exited with exit status: " ++
    String.ofList (Text.ofNat r.status) ++ ": " ++
    String.ofList (Text.trim (Text.Utf8.decodeLossy r.errors))

/-- Runs a command, on a device if one is named, and gives what it printed. -/
def command (device : Option String) (arguments : List String) : Bridge (List Char) := do
  let target := match device with
    | some id => ["-s", id]
    | none => []
  match ← Dialog.launch (target ++ arguments) with
  | .error e => fail (.commandFailed e.message)
  | .ok r =>
    if r.status ≠ 0 then fail (.commandFailed (failureText arguments r))
    return Text.Utf8.decodeLossy r.output

/-- An address in full: a host, and the number behind a colon, which is 5555 if none is given. -/
def normalize (address : String) : String :=
  let a := Text.trim address.toList
  String.ofList (if a.contains ':' then a else a ++ ":5555".toList)

/-- Whether a connection was made; the status does not tell. -/
def isConnected (output : List Char) : Bool :=
  let s := Text.asciiLower output
  Text.holds "connected to".toList s && !Text.holds "failed".toList s &&
    !Text.holds "unable".toList s

def connect (address : String) : Bridge String := do
  let address := normalize address
  match ← Dialog.launch ["connect", address] with
  | .error e => fail (.connection e.message)
  | .ok r =>
    let output := Text.Utf8.decodeLossy r.output ++ Text.Utf8.decodeLossy r.errors
    if !isConnected output then fail (.connection (String.ofList (Text.trim output)))
    return address

end Bridge

inductive Attachment
  | usb
  | wifi
  | remote
deriving DecidableEq

def Attachment.display : Attachment → String
  | usb => "Usb"
  | wifi => "Wifi"
  | remote => "Remote"

structure DeviceInfo where
  id : String
  status : String
  attachment : Attachment
  model : Option String
deriving DecidableEq

namespace DeviceInfo

def withoutStart (start : List Char) (s : List Char) : List Char :=
  go s.length s
where
  /-- Takes the start away as often as it is there, at most so many times. -/
  go : Nat → List Char → List Char
  | 0, s => s
  | n + 1, s => if start.isPrefixOf s then go n (s.drop start.length) else s

/-- The device that a line is about. It has to tell at least a serial number and a status. -/
def ofLine? (line : List Char) : Option DeviceInfo :=
  match Text.words line with
  | id :: status :: r =>
    let parts := id :: status :: r
    some {
      id := String.ofList id
      status := String.ofList status
      attachment :=
        if id.contains ':' then .remote
        else if parts.any fun p => "usb:".toList.isPrefixOf p then .usb
        else .wifi
      model := (parts.find? fun p => "model:".toList.isPrefixOf p).map fun p =>
        String.ofList (withoutStart "model:".toList p) }
  | _ => none

/-- The devices in a list, whose first line is its title. -/
def ofOutput (output : List Char) : List DeviceInfo :=
  ((Text.lines output).drop 1).filterMap ofLine?

end DeviceInfo

def Bridge.listDevices : Bridge (List DeviceInfo) := do
  return DeviceInfo.ofOutput (← command none ["devices", "-l"])

end ScreenAgent
