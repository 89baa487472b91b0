import ScreenAgent.Screen.Snapshot
import ScreenAgent.Text.Quoted

namespace ScreenAgent

/-- Where the content moves to when a screen is scrolled. -/
inductive Direction
  | up
  | down
  | left
  | right
deriving DecidableEq

namespace Direction

def name : Direction → String
  | up => "up"
  | down => "down"
  | left => "left"
  | right => "right"

def ofName? : String → Option Direction
  | "up" => some up
  | "down" => some down
  | "left" => some left
  | "right" => some right
  | _ => none

def display : Direction → String
  | up => "Up"
  | down => "Down"
  | left => "Left"
  | right => "Right"

def ofJson? (within : Bool) (levels : Nat) (j : Json) : Option Direction :=
  (j.name? ["up", "down", "left", "right"] within levels).bind ofName?

end Direction

inductive Action
  | click (target : Ref)
  | setText (target : Ref) (text : String)
  | scroll (direction : Direction)
  | wait (milliseconds : UInt64)
  | noOp
deriving DecidableEq

namespace Action

/-- The element that has to be found for an action. -/
def target? : Action → Option Ref
  | click target => some target
  | setText target _ => some target
  | _ => none

def kind : Action → String
  | click _ => "click"
  | setText _ _ => "set_text"
  | scroll _ => "scroll"
  | wait _ => "wait"
  | noOp => "noop"

def isNoOp (a : Action) : Bool := a == noOp

def display : Action → String
  | click target => "Click(" ++ target.display ++ ")"
  | setText target text =>
    "SetText(" ++ target.display ++ ", " ++ String.ofList (Text.quoted text.toList) ++ ")"
  | scroll direction => "Scroll(" ++ direction.display ++ ")"
  | wait ms => "Wait(" ++ String.ofList (Text.ofNat ms.toNat) ++ "ms)"
  | noOp => "NoOp"

def ofJson? (levels : Nat) (j : Json) : Option Action := do
  match ← j.tagged? "type" ["click", "set_text", "scroll", "wait", "no_op"] false levels with
  | ("click", rest) =>
    let r ← rest.record? ["target"]
    return click (← r.required "target" (Ref.ofJson? true levels))
  | ("set_text", rest) =>
    let r ← rest.record? ["target", "text"]
    return setText (← r.required "target" (Ref.ofJson? true levels)) (← r.required "text" Json.text?)
  | ("scroll", rest) =>
    let r ← rest.record? ["direction"]
    return scroll (← r.required "direction" (Direction.ofJson? true levels))
  | ("wait", rest) =>
    let r ← rest.record? ["duration_ms"]
    return wait (.ofNat (← r.required "duration_ms" Json.word?))
  | (_, rest) =>
    let _ ← match rest with
      | .array (_ :: _) => none
      | r => some r
    return noOp

def toJson : Action → Json
  | click target => .ofMembers [("type", .text "click"), ("target", target.toJson)]
  | setText target text =>
    .ofMembers [("type", .text "set_text"), ("target", target.toJson), ("text", .text text)]
  | scroll direction =>
    .ofMembers [("type", .text "scroll"), ("direction", .text direction.name)]
  | wait ms => .ofMembers [("type", .text "wait"), ("duration_ms", .nat ms.toNat)]
  | noOp => .ofMembers [("type", .text "no_op")]

end Action

inductive ErrorKind
  | staleReference
  /-- The screen refused it, took too long or was not there. -/
  | executionFailure
deriving DecidableEq

namespace ErrorKind

def name : ErrorKind → String
  | staleReference => "stale_reference"
  | executionFailure => "execution_failure"

def ofName? : String → Option ErrorKind
  | "stale_reference" => some staleReference
  | "execution_failure" => some executionFailure
  | _ => none

def ofJson? (levels : Nat) (j : Json) : Option ErrorKind :=
  (j.name? ["stale_reference", "execution_failure"] false levels).bind ofName?

end ErrorKind

structure Outcome where
  succeeded : Bool
  errorKind : Option ErrorKind
  message : Option String
deriving DecidableEq

namespace Outcome

def success : Outcome := ⟨true, none, none⟩

def failure (kind : ErrorKind) (message : String) : Outcome := ⟨false, some kind, some message⟩

def stale (message : String) : Outcome := failure .staleReference message

def ofJson? (levels : Nat) (j : Json) : Option Outcome := do
  if levels = 0 then none
  let r ← j.record? ["succeeded", "error_kind", "message"]
  return ⟨← r.required "succeeded" Json.bool?,
    ← r.optional "error_kind" (ErrorKind.ofJson? (levels - 1)),
    ← r.defaulted "message" none (Json.nullable Json.text?)⟩

/-- A missing message is left out. -/
def toJson (o : Outcome) : Json :=
  .ofMembers ([("succeeded", .bool o.succeeded),
    ("error_kind", .ofOption (fun k => .text k.name) o.errorKind)] ++
    (o.message.map fun m => ("message", Json.text m)).toList)

end Outcome

end ScreenAgent
