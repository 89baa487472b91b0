import ScreenAgent.Goal.Basic

namespace ScreenAgent

inductive GoalError
  | missingSeparator (step : String)
  | unknownVerb (verb : String)
  | emptyTarget (step : String)
  | missingText (step : String)
  | invalidPattern (fault : Pattern.Fault)
deriving DecidableEq

def GoalError.message : GoalError → String
  | missingSeparator step => "Missing ':' in goal step: " ++ step
  | unknownVerb verb => "Unknown goal verb: " ++ verb
  | emptyTarget step => "Empty target in goal step: " ++ step
  | missingText step => "Missing '=' in type step: " ++ step
  | invalidPattern fault => "Invalid pattern: " ++ fault.message

namespace Step

/-- Reads a step. What follows the first colon may be anything but nothing. -/
def read (step : String) : Except GoalError Step := do
  let some (verb, rest) := Text.splitFirst [':'] step.toList | throw (.missingSeparator step)
  if rest = [] then throw (.emptyTarget step)
  match String.ofList (Text.trim verb) with
  | "click" => return ⟨.byId (String.ofList rest), .click⟩
  | "click-text" => return ⟨.byText (String.ofList rest), .click⟩
  | "click-re" =>
    match WrittenPattern.ofSource (String.ofList rest) with
    | .ok p => return ⟨.byPattern p, .click⟩
    | .error fault => throw (.invalidPattern fault)
  | "type" =>
    let some (id, text) := Text.splitFirst ['='] rest | throw (.missingText step)
    if id = [] then throw (.emptyTarget step)
    return ⟨.byId (String.ofList id), .setText (String.ofList text)⟩
  | verb => throw (.unknownVerb verb)

/-- The written form of a step. Text can be typed only into an element that is told by identifier. -/
def written? (s : Step) : Option String :=
  match s.target, s.intent with
  | .byId id, .click => some ("click:" ++ id)
  | .byText text, .click => some ("click-text:" ++ text)
  | .byPattern p, .click => some ("click-re:" ++ p.source)
  | .byId id, .setText text => some ("type:" ++ id ++ "=" ++ text)
  | _, .setText _ => none

end Step

/-- Reads a goal from one text for each step; the first that is none decides the error. -/
def Goal.read (steps : List String) : Except GoalError Goal := return ⟨← steps.mapM Step.read⟩

end ScreenAgent
