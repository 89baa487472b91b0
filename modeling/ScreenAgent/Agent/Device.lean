import ScreenAgent.Agent.Surface

namespace ScreenAgent

inductive Request
  | liveTree
  | gesture (gesture : Gesture)
deriving DecidableEq

def Request.name : Request → String
  | liveTree => "live_tree"
  | gesture (.click _) => "click"
  | gesture (.setText _ _) => "set_text"
  | gesture (.scroll _) => "scroll"
  | gesture (.wait _) => "wait"

structure Device where
  tree : Option Node := none
  /-- The faults that requests run into, by their names. -/
  faults : List (String × Fault) := []
  /-- The trees that clicks lead to, by identifier; a missing one is empty. -/
  transitions : List (String × Node) := []
  requests : List Request := []

namespace Device

/-- Sets the text of every node with an identifier, or of every node that has none. -/
def withText (identifier : Option String) (text : String) (n : Node) : Node :=
  n.map fun a => if a.resourceId = identifier then { a with text := some text } else a

def apply (d : Device) : Gesture → Device
  | .click e =>
    match d.transitions.lookup (e.identifier.getD "") with
    | some tree => { d with tree := some tree }
    | none => d
  | .setText e text => { d with tree := d.tree.map (withText e.identifier text) }
  | _ => d

/-- Notes a request; if no fault stands against it, it is granted. -/
def ask {α : Type} (r : Request) (grant : Device → α × Device) : StateM Device (Answer α) :=
  fun d =>
    let d := { d with requests := d.requests ++ [r] }
    match d.faults.lookup r.name with
    | some fault => (.fault fault, d)
    | none => let (a, d) := grant d; (.ok a, d)

def surface : Surface (StateM Device) where
  look := ask .liveTree fun d => (d.tree, d)
  act g := ask (.gesture g) fun d => ((), d.apply g)

end Device

end ScreenAgent
