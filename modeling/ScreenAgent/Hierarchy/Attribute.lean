import ScreenAgent.Hierarchy.Reference
import ScreenAgent.Screen.Node
import ScreenAgent.Text.Search
import ScreenAgent.Unicode.Word

namespace ScreenAgent.Hierarchy

def isNameChar (c : Char) : Bool := Unicode.isWord c || c == ':' || c == '-'

def quotedValue? : List Char → Option (List Char)
  | '=' :: '"' :: s => if s.contains '"' then some (s.takeWhile (· != '"')) else none
  | _ => none

/-- The attributes in a text, as they are written. Names with no value behind them are passed over.
The first `skip` characters have been read already. -/
def attributesFrom : (skip : Nat) → List Char → List (List Char × List Char)
  | _, [] => []
  | skip + 1, _ :: r => attributesFrom skip r
  | 0, c :: r =>
    if isNameChar c then
      let name := (c :: r).takeWhile isNameChar
      match quotedValue? ((c :: r).drop name.length) with
      | some value => (name, value) :: attributesFrom (name.length + value.length + 2) r
      | none => attributesFrom (name.length - 1) r
    else attributesFrom 0 r

def attributes (s : List Char) : List (List Char × List Char) := attributesFrom 0 s

/-- A minus sign, if there is one, and digits: what they are and what follows them. -/
def signed? (s : List Char) : Option (List Char × List Char) :=
  let sign := if s.head? = some '-' then ['-'] else []
  let digits := (s.drop sign.length).takeWhile Unicode.isDigit
  if digits = [] then none else some (sign ++ digits, s.drop (sign.length + digits.length))

def corner? (s : List Char) : Option ((List Char × List Char) × List Char) := do
  guard (s.head? = some '[')
  let (x, s) ← signed? s.tail
  guard (s.head? = some ',')
  let (y, s) ← signed? s.tail
  guard (s.head? = some ']')
  return ((x, y), s.tail)

/-- The first two corners that stand side by side in a text. -/
def corners? : List Char → Option ((List Char × List Char) × (List Char × List Char))
  | [] => none
  | c :: r =>
    match corner? (c :: r) with
    | some (a, s) => match corner? s with
      | some (b, _) => some (a, b)
      | none => corners? r
    | none => corners? r

def coordinate? (s : List Char) : Option Coordinate :=
  (Text.integer? (-2147483648) 2147483647 s).bind Coordinate.ofInt?

def bounds? (s : List Char) : Option Bounds := do
  let ((left, top), (right, bottom)) ← corners? s
  return ⟨← coordinate? left, ← coordinate? top, ← coordinate? right, ← coordinate? bottom⟩

def isEditor (className : List Char) : Bool :=
  Text.holds "EditText".toList className || Text.holds "AutoCompleteTextView".toList className

def value? (as : List (List Char × List Char)) (name : String) : Option (List Char) :=
  (as.reverse.lookup name.toList).map unescape

/-- What a tag says about its node; empty values are missing ones. -/
def nodeAttributes (s : List Char) : Attributes :=
  let as := attributes s
  let nonEmpty? (name : String) : Option (List Char) := (value? as name).filter (· ≠ [])
  let isTrue (name : String) : Bool := value? as name == some "true".toList
  { resourceId := (nonEmpty? "resource-id").map String.ofList
    text := (nonEmpty? "text").map String.ofList
    className := (nonEmpty? "class").map String.ofList
    bounds := ((value? as "bounds").bind bounds?).getD default
    clickable := isTrue "clickable" || isTrue "long-clickable"
    editable := (nonEmpty? "class").any isEditor }

end ScreenAgent.Hierarchy
