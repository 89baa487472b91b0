import ScreenAgent.Settings.Basic
import ScreenAgent.Text.Search

namespace ScreenAgent.CommandLine

/-- Variables by name; of those with one name the first counts. -/
abbrev Variables := List (String × String)

namespace Variables

def word? (vs : Variables) (name : String) : Option UInt64 :=
  (vs.lookup name).bind fun v => (Text.natural? UInt64.size v.toList).map UInt64.ofNat

/-- Settings with variables in the place of some of them. A number that can not be read changes
nothing, and neither does a capacity of zero. -/
def override (vs : Variables) (s : Settings) : Settings :=
  { s with
    deviceId := (vs.lookup "ADB_DEVICE_ID").getD s.deviceId
    pollIntervalMs := (vs.word? "AGENT_POLL_INTERVAL_MS").getD s.pollIntervalMs
    maxCycles := (vs.word? "AGENT_MAX_CYCLES").getD s.maxCycles
    bufferCapacity :=
      ((vs.word? "AGENT_BUFFER_CAPACITY").filter (0 < ·)).getD s.bufferCapacity
    queueCapacity :=
      ((vs.word? "AGENT_QUEUE_CAPACITY").filter (0 < ·)).getD s.queueCapacity
    archiveExperiences :=
      ((vs.lookup "AGENT_ARCHIVE").map fun v =>
        v == "1" || Text.sameAsciiCase v.toList "true".toList).getD s.archiveExperiences }

def names : List String := ["ADB_DEVICE_ID", "AGENT_POLL_INTERVAL_MS", "AGENT_MAX_CYCLES",
  "AGENT_BUFFER_CAPACITY", "AGENT_QUEUE_CAPACITY", "AGENT_ARCHIVE"]

end Variables

end ScreenAgent.CommandLine
