import ScreenAgent.Agent.Surface
import ScreenAgent.Screen.Perception

namespace ScreenAgent.Action

def outcomeOf : Except Fault Unit → Outcome
  | .ok () => .success
  | .error fault => .failure .executionFailure fault.message

def perform (gesture : Gesture) : Plan Outcome := .act gesture fun r => .done (outcomeOf r)

/-- Makes a gesture on the element that is the target now. -/
def performOn (p : Perception) (target : Ref) (gesture : Element → Gesture) : Plan Outcome :=
  .look fun
    | .error fault => .done (.failure .executionFailure fault.message)
    | .ok tree =>
      match (p.analyze tree).resolve? target with
      | some (_, element) => perform (gesture element)
      | none => .done (.stale (target.display ++ " no longer present"))

/-- Executes an action. Whatever a surface says to it is an outcome. -/
def execute (p : Perception) : Action → Plan Outcome
  | .noOp => .done .success
  | .click target => performOn p target .click
  | .setText target text => performOn p target fun element => .setText element text
  | .scroll direction => perform (.scroll direction)
  | .wait ms => perform (.wait ms)

end ScreenAgent.Action
