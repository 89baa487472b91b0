import ScreenAgent.Agent.Cycle
import ScreenAgent.Agent.RulePolicy
import ScreenAgent.Archive.Sink
import ScreenAgent.Bridge.Surface
import ScreenAgent.CommandLine.Options
import ScreenAgent.CommandLine.VariableFile
import ScreenAgent.Goal.Reader
import ScreenAgent.Runner.Poller

namespace ScreenAgent.CommandLine

/-- What a session finds: variables, a file of more of them, the directory for its data, and stamps
for the experiences that it makes. -/
structure Environment where
  given : Variables
  variableFile : Option String
  dataDirectory : String
  stamps : Nat → Stamp

/-- What a session leaves: its output, the settings store, and the archive with its path if there is
one. -/
structure Console where
  output : String := ""
  store : SettingsStore
  archive : Option (String × Archive) := none

abbrev Session := ExceptT String (StateT Console Dialog)

def say (line : String) : Session Unit :=
  modify fun c => { c with output := c.output ++ line ++ "\n" }

/-- Work with the bridge, an error of which ends the session. -/
def bridge {α : Type} (b : Bridge α) : Session α := do
  match ← (b.outcome : Dialog _) with
  | .ok a => return a
  | .error (.failed e) => throw e.message
  | .error .overflow => throw "coordinate out of range"

def number (n : Nat) : String := String.ofList (Text.ofNat n)

def rule : String := "================================================"

abbrev SessionAgent := Agent RulePolicy ShapedReward Archive

structure Watch where
  runner : Runner SessionAgent Node Report
  surface : BridgeSurface

def reportLine (r : Report) : String :=
  (if r.outcome.succeeded then "✅" else "❌") ++ " #" ++ number r.cycle ++ " " ++
    r.action.display ++ " (" ++ number r.snapshot.size ++ " elements)" ++
    (match r.outcome.message with
      | some m => ": " ++ m
      | none => "")

/-- Lets the runner go on until it waits or ends, and prints its reports. -/
def settle (stamps : Nat → Stamp) (w : Watch) : Session Watch := do
  let work := w.runner.settle (Agent.attend BridgeSurface.surface stamps)
  let (runner, surface) ← (work.run w.surface : Dialog _)
  (runner.reports.drop w.runner.reports.length).forM fun r => say (reportLine r)
  return ⟨runner, surface⟩

/-- Feeds the runner until the goal is reached or the cycles are used up. After so many steps the
session is interrupted. -/
def feed (stamps : Nat → Stamp) (limit : Nat) : (steps : Nat) → Poller Node → Watch → Session Watch
  | 0, _, w => do
    say "\nInterrupted"
    settle stamps { w with runner := w.runner.stop }
  | steps + 1, p, w => do
    let seen ← match p with
      | .dumping => (do
        match ← ((Bridge.dump w.surface.device).outcome : Dialog _) with
        | .ok tree => return tree
        | .error _ => return none : Session (Option Node))
      | _ => pure none
    match p.step limit Report.policyComplete seen w.runner with
    | none =>
      match p with
      | .refused e => throw e.message
      | _ => return w
    | some (p, runner) => feed stamps limit steps p (← settle stamps { w with runner })

def announce (goal : Goal) (s : Settings) : Session Unit := do
  say "🤖 UI Agent - Android UI Automation"
  say rule
  (goal.steps.zipIdx 1).forM fun (step, i) => say ("Step " ++ number i ++ ": " ++ step.display)
  if s.deviceId ≠ "" then say ("Device: " ++ s.deviceId)
  say ("Poll: " ++ number s.pollIntervalMs.toNat ++ "ms, max cycles: " ++ number s.maxCycles.toNat ++
    ", buffer: " ++ number s.bufferCapacity.toNat)
  say (rule ++ "\n")

def summarize (r : Runner SessionAgent Node Report) : Session Unit := do
  let a := r.worker
  say ("\n" ++ rule)
  if a.policy.isComplete then say ("🎉 Goal completed in " ++ number a.cycles ++ " cycles")
  else say ("⚠️ Goal not completed after " ++ number a.cycles ++ " cycles")
  say ("Buffered experiences: " ++ number a.learner.size ++ ", optimization passes: " ++
    number a.learner.runs ++ ", dropped events: " ++ number r.queue.dropped)

def archivePath? (env : Environment) (s : Settings) : Option String :=
  if !s.archiveExperiences then none
  else if s.archivePath = "" then some (env.dataDirectory ++ "/" ++ Archive.fileName)
  else some s.archivePath

/-- How many steps the loop that feeds a runner takes for one look at the screen, at most. -/
def stepsOfPoll : Nat := 10

/-- Pursues a goal. The screen is looked at so many times at most. -/
def pursue (env : Environment) (polls : Nat) (goal : Goal) (s : Settings) : Session Unit := do
  announce goal s
  let path? := archivePath? env s
  if let some path := path? then say ("Archiving experiences to " ++ path)
  let agent : SessionAgent := .ofConfig s.config (.ofGoal goal) {} (path?.map fun _ => {})
  let start : Watch := ⟨.start s.config.queueCapacity agent, ⟨s.config.deviceId, none⟩⟩
  let w ← feed env.stamps s.maxCycles.toNat (stepsOfPoll * (polls + 1)) .testing
    (← settle env.stamps start)
  summarize w.runner
  modify fun c => { c with archive := do return (← path?, ← w.runner.worker.learner.sink) }

def session (env : Environment) (polls : Nat) (arguments : List String) : Session Unit := do
  let options := Options.ofArguments arguments
  let vs := env.given.withFile env.variableFile
  let mut settings := vs.override (← get).store.load
  if let some address := options.connect then
    let serial ← bridge (Bridge.connect address)
    say ("Connected to " ++ serial)
    if settings.deviceId = "" then settings := { settings with deviceId := serial }
  if options.listDevices then
    (← bridge Bridge.listDevices).forM fun d =>
      say (d.id ++ "\t" ++ d.status ++ "\t" ++ d.attachment.display ++ "\t" ++ d.model.getD "")
    return
  if options.dump then
    let tree ← bridge (Bridge.dump settings.config.deviceId)
    say (({} : Perception).analyze tree).toJson.toIndented
    return
  if options.saveSettings then
    match (← get).store.save settings with
    | .ok store => modify fun c => { c with store }
    | .error e => throw e.message
  if options.steps = [] then
    say usage
    return
  match Goal.read options.steps with
  | .ok goal => pursue env polls goal settings
  | .error e => throw e.message

/-- Runs a session: the message of the error that ended it, if one did, and what it leaves. -/
def run (env : Environment) (store : SettingsStore) (polls : Nat) (arguments : List String) :
    Dialog (Option String × Console) := do
  let (result, console) ← (session env polls arguments).run { store }
  return (match result with
    | .ok () => none
    | .error message => some ("Error: " ++ message), console)

end ScreenAgent.CommandLine
