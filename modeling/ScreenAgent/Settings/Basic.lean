import ScreenAgent.Agent.Config
import ScreenAgent.Json.Reader
import ScreenAgent.Json.Record
import ScreenAgent.Json.Writer
import ScreenAgent.Text.Utf8

namespace ScreenAgent

structure Settings where
  deviceId : String := ""
  pollIntervalMs : UInt64 := 1000
  maxCycles : UInt64 := 50
  bufferCapacity : UInt64 := 100
  queueCapacity : UInt64 := 16
  archiveExperiences : Bool := false
  archivePath : String := ""
deriving DecidableEq

namespace Settings

def ofJson? (levels : Nat) (j : Json) : Option Settings := do
  if levels = 0 then none
  let r ← j.record? ["device_id", "poll_interval_ms", "max_cycles", "buffer_capacity",
    "queue_capacity", "archive_experiences", "archive_path"]
  let word (j : Json) : Option UInt64 := j.word?.map UInt64.ofNat
  return {
    deviceId := ← r.defaulted "device_id" "" Json.text?
    pollIntervalMs := ← r.defaulted "poll_interval_ms" 1000 word
    maxCycles := ← r.defaulted "max_cycles" 50 word
    bufferCapacity := ← r.defaulted "buffer_capacity" 100 word
    queueCapacity := ← r.defaulted "queue_capacity" 16 word
    archiveExperiences := ← r.defaulted "archive_experiences" false Json.bool?
    archivePath := ← r.defaulted "archive_path" "" Json.text? }

def toJson (s : Settings) : Json :=
  .ofMembers [("device_id", .text s.deviceId), ("poll_interval_ms", .nat s.pollIntervalMs.toNat),
    ("max_cycles", .nat s.maxCycles.toNat), ("buffer_capacity", .nat s.bufferCapacity.toNat),
    ("queue_capacity", .nat s.queueCapacity.toNat),
    ("archive_experiences", .bool s.archiveExperiences), ("archive_path", .text s.archivePath)]

def withCapacities (s : Settings) : Settings :=
  { s with
    bufferCapacity := if s.bufferCapacity = 0 then 100 else s.bufferCapacity
    queueCapacity := if s.queueCapacity = 0 then 16 else s.queueCapacity }

/-- The settings that the content of a file gives; without a file, or with one that is no settings,
the default ones. -/
def ofFile (file : Option (List UInt8)) : Settings :=
  let read? : Option Settings := do
    let text ← Text.Utf8.decode? (← file)
    ofJson? Json.levelLimit (← Json.read? text)
  (read?.getD {}).withCapacities

def toFile (s : Settings) : List UInt8 := Text.Utf8.encode s.toJson.toIndented.toList

/-- The agent that the settings ask for. Without a device named, any will do. -/
def config (s : Settings) : Config where
  bufferCapacity := s.bufferCapacity.toNat
  queueCapacity := s.queueCapacity.toNat
  deviceId := if s.deviceId = "" then none else some s.deviceId

def fileName : String := "settings.json"

end Settings

/-- Where settings are kept: what the file there holds, and whether a file stands where the directory
around it would have to be. -/
structure SettingsStore where
  file : Option (List UInt8) := none
  blocked : Bool := false
deriving DecidableEq

inductive SaveError
  | directoryBlocked
deriving DecidableEq

def SaveError.message : SaveError → String
  | directoryBlocked => "Failed to create config directory: File exists (os error 17)"

namespace SettingsStore

def load (s : SettingsStore) : Settings := .ofFile (if s.blocked then none else s.file)

def save (s : SettingsStore) (settings : Settings) : Except SaveError SettingsStore :=
  if s.blocked then .error .directoryBlocked else .ok { s with file := some settings.toFile }

end SettingsStore

end ScreenAgent
