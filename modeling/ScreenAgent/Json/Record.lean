import ScreenAgent.Json.Basic

namespace ScreenAgent.Json

def levelLimit : Nat := 127

def text? : Json → Option String
  | .string s => s
  | _ => none

def bool? : Json → Option Bool
  | .bool b => some b
  | _ => none

def integer? (low high : Int) : Json → Option Int
  | .number n => n.toInt?.filter fun z => low ≤ z ∧ z ≤ high
  | _ => none

def word? (j : Json) : Option Nat := (integer? 0 18446744073709551615 j).map Int.toNat

def real? : Json → Option Float
  | .number n => n.toFloat?
  | _ => none

def nullable {α : Type} (decode : Json → Option α) : Json → Option (Option α)
  | .null => some none
  | j => (decode j).map some

mutual

/-- Whether a value can be taken in whole: it nests at most so many levels deep, its strings have a
text and its numbers are finite. -/
def sound (levels : Nat) : Json → Bool
  | .null => true
  | .bool _ => true
  | .number n => n.toFloat?.isSome
  | .string s => s.isSome
  | .array items => 0 < levels && soundItems (levels - 1) items
  | .object members => 0 < levels && soundMembers (levels - 1) members

def soundItems (levels : Nat) : List Json → Bool
  | [] => true
  | j :: r => sound levels j && soundItems levels r

def soundMembers (levels : Nat) : List (Option String × Json) → Bool
  | [] => true
  | (k, j) :: r => k.isSome && sound levels j && soundMembers levels r

end

/-- The fields of a record that are present, by name. `inOrder` tells a record given as an array. -/
structure Record where
  inOrder : Bool
  fields : List (String × Json)

/-- A record with fields of these names. A name may stand only once, every key has to have a text,
and an array may not have more items than there are names. -/
def record? (names : List String) : Json → Option Record
  | .object members => do
    let keyed ← members.mapM fun m => m.1.map fun k => (k, m.2)
    let known := keyed.filter fun m => names.contains m.1
    if (known.map Prod.fst).Nodup then some ⟨false, known⟩ else none
  | .array items =>
    if items.length ≤ names.length then some ⟨true, names.zip items⟩ else none
  | _ => none

namespace Record

def field? (r : Record) (name : String) : Option Json := r.fields.lookup name

def required {α : Type} (r : Record) (name : String) (decode : Json → Option α) : Option α :=
  (r.field? name).bind decode

def defaulted {α : Type} (r : Record) (name : String) (value : α) (decode : Json → Option α) :
    Option α :=
  match r.field? name with
  | none => some value
  | some j => decode j

/-- A field that may be null, and may be missing from an object but not from an array. -/
def optional {α : Type} (r : Record) (name : String) (decode : Json → Option α) :
    Option (Option α) :=
  match r.field? name with
  | none => if r.inOrder then none else some none
  | some j => nullable decode j

end Record

/-- The form that a tag names. Where the value around it has been taken in whole already, a tag may
also be the place of the form in their list. -/
def form? (forms : List String) (within : Bool) : Json → Option String
  | .string s => s.filter fun t => forms.contains t
  | .number n => if within then n.toInt?.bind fun z => if 0 ≤ z then forms[z.toNat]? else none else none
  | _ => none

/-- A tagged value: the form it has, and its other fields as an object or an array. The whole value
has to be sound, wherever in an object the tag stands. -/
def tagged? (tag : String) (forms : List String) (within : Bool) (levels : Nat) (j : Json) :
    Option (String × Json) :=
  if sound levels j then
    match j with
    | .object members =>
      match members.filter fun m => m.1 == some tag with
      | [m] => (form? forms within m.2).map fun f =>
        (f, .object (members.filter fun m => m.1 != some tag))
      | _ => none
    | .array (t :: r) => (form? forms within t).map fun f => (f, .array r)
    | _ => none
  else none

/-- A value that is one of several names: the name itself, or an object that gives it null. An empty
object does in place of null where the value around it has been taken in whole already. -/
def name? (names : List String) (within : Bool) (levels : Nat) : Json → Option String
  | .string s => s.filter fun t => names.contains t
  | .object [(some k, v)] =>
    let nothing : Bool := match v with
      | .null => true
      | .object [] => within
      | _ => false
    if 0 < levels ∧ nothing ∧ names.contains k then some k else none
  | _ => none

def itemsOf? {α : Type} (decode : Nat → Json → Option α) (levels : Nat) : Json → Option (List α)
  | .array items => if levels = 0 then none else items.mapM (decode (levels - 1))
  | _ => none

end ScreenAgent.Json
