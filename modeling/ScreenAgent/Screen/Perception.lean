import ScreenAgent.Screen.Snapshot

namespace ScreenAgent

structure Perception where
  maxNodes : Nat := 10000

namespace Perception

def isInteractive (a : Attributes) : Bool := a.clickable || a.editable

/-- A node as an element; missing text and class are empty. -/
def elementOf (a : Attributes) : Element where
  identifier := a.resourceId
  text := a.text.getD ""
  elementClass := a.className.getD ""
  bounds := a.bounds
  clickable := a.clickable
  editable := a.editable

/-- Walks the nodes that are waiting, the first of them first, with its children before the others.
There is no answer if more than `budget` nodes come up. -/
def walk {ν : Type} [TreeView ν] : (budget : Nat) → (waiting : List ν) → Option (List Element)
  | _, [] => some []
  | 0, _ :: _ => none
  | budget + 1, n :: r =>
    (walk budget ((TreeView.slots n).filterMap id ++ r)).map fun es =>
      let a := TreeView.attributes n
      if isInteractive a then elementOf a :: es else es

def analyze {ν : Type} [TreeView ν] (p : Perception) (root : Option ν) : Snapshot :=
  match root with
  | none => .empty
  | some n => match walk p.maxNodes [n] with
    | some es => ⟨es⟩
    | none => .empty

end Perception

end ScreenAgent
