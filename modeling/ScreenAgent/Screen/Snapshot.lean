import ScreenAgent.Screen.Node
import ScreenAgent.Text.Search

namespace ScreenAgent

structure Element where
  identifier : Option String
  text : String
  elementClass : String
  bounds : Bounds
  clickable : Bool
  editable : Bool
deriving DecidableEq, Inhabited

/-- The name at the end of a full identifier: what follows its last `:id/`, or all of it. -/
def shortIdentifier (identifier : String) : String :=
  match Text.afterLast ":id/".toList identifier.toList with
  | some name => String.ofList name
  | none => identifier

namespace Element

def hasIdentifier (e : Element) (wanted : String) : Bool :=
  match e.identifier with
  | some id => id == wanted || shortIdentifier id == wanted
  | none => false

def ofJson? (levels : Nat) (j : Json) : Option Element := do
  if levels = 0 then none
  let r ← j.record? ["identifier", "text", "element_class", "bounds", "clickable", "editable"]
  return {
    identifier := ← r.optional "identifier" Json.text?
    text := ← r.required "text" Json.text?
    elementClass := ← r.required "element_class" Json.text?
    bounds := ← r.required "bounds" (Bounds.ofJson? (levels - 1))
    clickable := ← r.required "clickable" Json.bool?
    editable := ← r.required "editable" Json.bool? }

def toJson (e : Element) : Json :=
  .ofMembers [("identifier", .ofOption .text e.identifier), ("text", .text e.text),
    ("element_class", .text e.elementClass), ("bounds", e.bounds.toJson),
    ("clickable", .bool e.clickable), ("editable", .bool e.editable)]

end Element

inductive Ref
  /-- The element with this identifier that has `nth` others with it before. -/
  | byId (id : String) (nth : Nat)
  /-- The element at this place, if it has this class. -/
  | byPosition (index : Nat) (elementClass : String)
deriving DecidableEq

namespace Ref

def display : Ref → String
  | .byId id 0 => shortIdentifier id
  | .byId id nth => shortIdentifier id ++ "[" ++ String.ofList (Text.ofNat nth) ++ "]"
  | .byPosition index elementClass =>
    "#" ++ String.ofList (Text.ofNat index) ++ " (" ++ elementClass ++ ")"

/-- Reads a reference; `within` tells that the value around it has been taken in whole. -/
def ofJson? (within : Bool) (levels : Nat) (j : Json) : Option Ref := do
  match ← j.tagged? "by" ["id", "position"] within levels with
  | ("id", rest) =>
    let r ← rest.record? ["id", "nth"]
    return .byId (← r.required "id" Json.text?) (← r.defaulted "nth" 0 Json.word?)
  | (_, rest) =>
    let r ← rest.record? ["index", "element_class"]
    return .byPosition (← r.required "index" Json.word?) (← r.required "element_class" Json.text?)

def toJson : Ref → Json
  | .byId id nth => .ofMembers [("by", .text "id"), ("id", .text id), ("nth", .nat nth)]
  | .byPosition index elementClass => .ofMembers [("by", .text "position"), ("index", .nat index),
      ("element_class", .text elementClass)]

end Ref

structure Snapshot where
  elements : List Element
deriving DecidableEq, Inhabited

namespace Snapshot

def empty : Snapshot := ⟨[]⟩

def size (s : Snapshot) : Nat := s.elements.length

/-- The reference to the element at a place. An element with an identifier goes by it and by how
many before it share it; any other goes by its place. -/
def refAt? (s : Snapshot) (index : Nat) : Option Ref :=
  s.elements[index]?.map fun e =>
    match e.identifier with
    | some id =>
      if id = "" then .byPosition index e.elementClass
      else .byId id ((s.elements.take index).countP fun o => o.identifier == some id)
    | none => .byPosition index e.elementClass

/-- The `nth` element from `index` on that has an identifier, with its place. -/
def findNth? (id : String) : (nth index : Nat) → List Element → Option (Nat × Element)
  | _, _, [] => none
  | nth, index, e :: r =>
    if e.identifier == some id then
      match nth with
      | 0 => some (index, e)
      | nth + 1 => findNth? id nth (index + 1) r
    else findNth? id nth (index + 1) r

def resolve? (s : Snapshot) : Ref → Option (Nat × Element)
  | .byId id nth => findNth? id nth 0 s.elements
  | .byPosition index elementClass =>
    (s.elements[index]?.filter fun e => e.elementClass == elementClass).map fun e => (index, e)

def ofJson? (levels : Nat) (j : Json) : Option Snapshot := do
  if levels = 0 then none
  let r ← j.record? ["elements"]
  return ⟨← r.required "elements" (Json.itemsOf? Element.ofJson? (levels - 1))⟩

def toJson (s : Snapshot) : Json :=
  .ofMembers [("elements", .array (s.elements.map Element.toJson))]

end Snapshot

end ScreenAgent
