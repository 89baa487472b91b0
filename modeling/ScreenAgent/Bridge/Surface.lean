import ScreenAgent.Agent.Surface
import ScreenAgent.Bridge.Input
import ScreenAgent.Bridge.Screen

namespace ScreenAgent

/-- A device, the only one if it is not named, and the size of its screen once it is known. -/
structure BridgeSurface where
  device : Option String
  screen : Option (Nat × Nat) := none
deriving DecidableEq

namespace BridgeSurface

open Bridge

/-- Where a finger goes down and up to move the content in a direction: against it, across the middle
of the screen. -/
def strokes? (d : Direction) (size : Nat × Nat) : Option (Bridge.Point × Bridge.Point) := do
  let w : Int := Int.bmod size.1 UInt32.size
  let h : Int := Int.bmod size.2 UInt32.size
  let part (extent : Int) (tenths : Int) : Option Coordinate := do
    Coordinate.ofInt? ((← Coordinate.ofInt? (extent * tenths)).val.tdiv 10)
  let cx ← Coordinate.ofInt? (w.tdiv 2)
  let cy ← Coordinate.ofInt? (h.tdiv 2)
  match d with
  | .down => return ((cx, ← part h 7), (cx, ← part h 3))
  | .up => return ((cx, ← part h 3), (cx, ← part h 7))
  | .right => return ((← part w 8, cy), (← part w 2, cy))
  | .left => return ((← part w 2, cy), (← part w 8, cy))

/-- An answer to the one who asked the surface; an error in the work is a fault of a kind. -/
def answerOf {α : Type} (fault : String → Fault) : Except Mishap α → Answer α
  | .ok a => .ok a
  | .error (.failed e) => .fault (fault e.message)
  | .error .overflow => .overflow

def tapElement (device : Option String) (e : Element) : Dialog (Answer Unit) :=
  match e.bounds.isEmpty? with
  | none => pure .overflow
  | some true => pure (.fault (.rejected (e.elementClass ++ " has no on-screen area")))
  | some false =>
    match e.bounds.center? with
    | none => pure .overflow
    | some middle => do return answerOf .rejected (← (tap device middle).outcome)

/-- Replaces the text of the field that has the focus. The keyboard is switched back whatever came of
clearing and typing. -/
def enterText (device : Option String) (text : String) : Bridge Unit := do
  let ime ← borrowKeyboard device
  let typed ← (Bridge.attempt do
    clearText device
    typeText device text)
  let _ ← (restoreKeyboard device ime).attempt
  ExceptT.mk (pure typed)

def setText (device : Option String) (e : Element) (text : String) : Dialog (Answer Unit) := do
  match ← tapElement device e with
  | .ok () => return answerOf .rejected (← (enterText device text).outcome)
  | other => return other

def liveTree (device : Option String) : Dialog (Answer (Option Node)) := do
  return answerOf .unavailable (← (dump device).outcome)

def size (s : BridgeSurface) : Bridge ((Nat × Nat) × BridgeSurface) :=
  match s.screen with
  | some known => pure (known, s)
  | none => do
    let asked ← screenSize s.device
    return (asked, { s with screen := some asked })

def scroll (s : BridgeSurface) (d : Direction) : Dialog (Answer Unit × BridgeSurface) := do
  match ← s.size.outcome with
  | .error mishap => return (answerOf .rejected (.error mishap), s)
  | .ok (known, s) =>
    match strokes? d known with
    | none => return (.overflow, s)
    | some (start, finish) =>
      return (answerOf .rejected (← (swipe s.device start finish none).outcome), s)

/-- Makes a gesture. Waiting is all that is done for a wait. -/
def perform (s : BridgeSurface) : Gesture → Dialog (Answer Unit × BridgeSurface)
  | .click e => do return (← tapElement s.device e, s)
  | .setText e text => do return (← setText s.device e text, s)
  | .scroll d => s.scroll d
  | .wait _ => pure (.ok (), s)

def surface : Surface (StateT BridgeSurface Dialog) where
  look s := do return (← liveTree s.device, s)
  act gesture s := s.perform gesture

end BridgeSurface

end ScreenAgent
