import ScreenAgent.Screen.Bounds

namespace ScreenAgent

/-- What a node shows of itself. Identifier, text and class may be missing. -/
structure Attributes where
  resourceId : Option String := none
  text : Option String := none
  className : Option String := none
  bounds : Bounds := default
  clickable : Bool := false
  editable : Bool := false
deriving DecidableEq, Inhabited

inductive Node
  | mk (own : Attributes) (children : List Node)

namespace Node

def own : Node → Attributes
  | mk a _ => a

def children : Node → List Node
  | mk _ c => c

instance : Inhabited Node := ⟨mk default []⟩

def ofClass (name : String) : Node := mk { className := some name } []

def withResourceId (n : Node) (id : String) : Node := mk { n.own with resourceId := some id } n.children

def withText (n : Node) (text : String) : Node := mk { n.own with text := some text } n.children

def withBounds (n : Node) (bounds : Bounds) : Node := mk { n.own with bounds } n.children

def asClickable (n : Node) : Node := mk { n.own with clickable := true } n.children

def asEditable (n : Node) : Node := mk { n.own with editable := true } n.children

def withChildren (n : Node) (more : List Node) : Node := mk n.own (n.children ++ more)

def button (id text : String) : Node :=
  (((ofClass "android.widget.Button").withResourceId id).withText text).asClickable

def editText (id : String) : Node :=
  ((ofClass "android.widget.EditText").withResourceId id).asEditable

mutual

def count : Node → Nat
  | mk _ children => 1 + countAll children

def countAll : List Node → Nat
  | [] => 0
  | n :: r => n.count + countAll r

end

mutual

/-- The nodes of a tree in pre-order, each with its depth. -/
def preorder (depth : Nat) : Node → List (Nat × Attributes)
  | mk own children => (depth, own) :: preorderAll (depth + 1) children

def preorderAll (depth : Nat) : List Node → List (Nat × Attributes)
  | [] => []
  | n :: r => n.preorder depth ++ preorderAll depth r

end

mutual

def map (f : Attributes → Attributes) : Node → Node
  | mk own children => mk (f own) (mapAll f children)

def mapAll (f : Attributes → Attributes) : List Node → List Node
  | [] => []
  | n :: r => n.map f :: mapAll f r

end

/-- Reads a node that may enter so many levels, with a reader for the list of its children. -/
def ofJsonWith? (levels : Nat) (children? : Json → Option (List Node)) (j : Json) : Option Node := do
  let r ← j.record? ["resource_id", "text", "class_name", "bounds", "clickable", "editable",
    "children"]
  let resourceId ← r.defaulted "resource_id" none (Json.nullable Json.text?)
  let text ← r.defaulted "text" none (Json.nullable Json.text?)
  let className ← r.defaulted "class_name" none (Json.nullable Json.text?)
  let bounds ← r.defaulted "bounds" default (Bounds.ofJson? levels)
  let clickable ← r.defaulted "clickable" false Json.bool?
  let editable ← r.defaulted "editable" false Json.bool?
  let children ← r.defaulted "children" [] children?
  return mk { resourceId, text, className, bounds, clickable, editable } children

/-- Reads a tree. A node and the list of its children take a level each. -/
def ofJson? : Nat → Json → Option Node
  | 0 => fun _ => none
  | 1 => ofJsonWith? 0 fun _ => none
  | levels + 2 => ofJsonWith? (levels + 1) fun
    | .array items => items.mapM (ofJson? levels)
    | _ => none

mutual

def toJson : Node → Json
  | mk own children => .ofMembers [
      ("resource_id", .ofOption .text own.resourceId),
      ("text", .ofOption .text own.text),
      ("class_name", .ofOption .text own.className),
      ("bounds", own.bounds.toJson),
      ("clickable", .bool own.clickable),
      ("editable", .bool own.editable),
      ("children", .array (toJsonAll children))]

def toJsonAll : List Node → List Json
  | [] => []
  | n :: r => n.toJson :: toJsonAll r

end

end Node

/-- A kind of tree that can be looked at: what a node shows of itself, and its child slots in order.
A slot may be empty although it is counted. -/
class TreeView (ν : Type) where
  attributes : ν → Attributes
  slots : ν → List (Option ν)

instance : TreeView Node where
  attributes := Node.own
  slots n := n.children.map some

inductive SlotTree
  | mk (own : Attributes) (slots : List (Option SlotTree))

instance : TreeView SlotTree where
  attributes | .mk own _ => own
  slots | .mk _ slots => slots

end ScreenAgent
