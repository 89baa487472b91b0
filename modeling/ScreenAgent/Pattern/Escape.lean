import ScreenAgent.Pattern.Classes
import ScreenAgent.Pattern.Cursor
import ScreenAgent.Text.Search

namespace ScreenAgent.Pattern

open Unicode (Ranges)
open Reader

def hexDigits : Nat → Reader (List Char)
  | 0 => return []
  | n + 1 => do
    let c ← peek
    check (Text.hexDigit? c).isSome
    bump
    space
    return c :: (← hexDigits n)

/-- The code point that a hexadecimal escape names; its letter comes next. The answer tells whether
it was written as two digits. -/
def hexEscape : Reader (Char × Bool) := do
  let letter ← peek
  step
  let (digits, short) ← if ← sees '\x7b' then do
      bump
      space
      let digits ← run (fun c => (Text.hexDigit? c).isSome) (← size)
      check (← sees '\x7d')
      bump
      space
      pure (digits, false)
    else do
      let digits ← hexDigits (if letter == 'x' then 2 else if letter == 'u' then 4 else 8)
      pure (digits, letter == 'x')
  match Text.hexadecimal? digits with
  | some n => if h : n.isValidChar then return (Char.ofNatAux n h, short) else fail
  | none => fail

/-- The set that a text between braces stands for, and whether it is written as what the set leaves
out: a name, or a property and a value with one of three signs between. -/
def bracedSet? (text : List Char) : Option (Ranges × Bool) :=
  match Text.splitFirst ['!', '='] text, Text.splitFirst [':'] text, Text.splitFirst ['='] text with
  | some (property, value), _, _ => (valuedSet? property value).map fun r => (r, true)
  | none, some (property, value), _ => (valuedSet? property value).map fun r => (r, false)
  | none, none, some (property, value) => (valuedSet? property value).map fun r => (r, false)
  | none, none, none => (namedSet? text).map fun r => (r, false)

/-- A class of Unicode by the letter `p` or `P`, which comes next. -/
def unicodeClass : Reader Ranges := do
  let f ← flags
  check f.unicode
  let negated := (← peek) == 'P'
  step
  let set? ← if ← sees '\x7b' then do
      bump
      space
      let text ← run (· != '\x7d') (← size)
      check (← sees '\x7d')
      bump
      pure (bracedSet? text)
    else do
      let c ← peek
      check (c != '\\')
      bump
      space
      pure ((namedSet? [c]).map fun r => (r, false))
  match set? with
  | some (set, without) =>
    let set := if f.ignoreCase then Unicode.caseClosure set else set
    return if negated != without then set.complement else set
  | none => fail

/-- A class by one letter. Outside Unicode a negated one would hold more than ASCII. -/
def shorthandClass (c : Char) : Reader Ranges := do
  let small := c.toLower
  let negated := c != small
  if (← flags).unicode then
    let set := letterClass small
    return if negated then set.complement else set
  else
    check (!negated)
    return asciiLetterClass small

def isMeta (c : Char) : Bool :=
  "\\.+*?()|[]^$#&-~".toList.contains c || c == '\x7b' || c == '\x7d'

/-- Characters that may be escaped without need: ASCII that is neither letter nor digit, but not the
angle brackets, which stand for the edges of words. -/
def isEscapable (c : Char) : Bool :=
  isMeta c || (c.toNat < 128 && !c.isAlphanum && c != '<' && c != '>')

inductive Escape
  | char (c : Char) (short : Bool)
  | set (r : Ranges)
  | anchor (a : Anchor)

/-- The word edge that a name in braces asks for, if what follows is such a name at all. -/
def wordEdge (unicode : Bool) : Reader Anchor := do
  let before ← rest
  if !(← sees '\x7b') then return .wordEdge unicode
  step
  let c ← peek
  if !(c.isAlpha || c == '-') then
    setRest before
    return .wordEdge unicode
  let name ← run (fun c => c.isAlpha || c == '-') (← size)
  check (← sees '\x7d')
  bump
  match String.ofList name with
  | "start" => return .wordStart unicode
  | "end" => return .wordEnd unicode
  | "start-half" => return .noWordBefore unicode
  | "end-half" => return .noWordAfter unicode
  | _ => fail

def escape : Reader Escape := do
  bump
  let c ← peek
  if c.isDigit then fail
  if c == 'x' || c == 'u' || c == 'U' then
    let (c, short) ← hexEscape
    return .char c short
  if c == 'p' || c == 'P' then return .set (← unicodeClass)
  bump
  if "dswDSW".toList.contains c then return .set (← shorthandClass c)
  if isEscapable c then return .char c false
  let u := (← flags).unicode
  match c with
  | 'a' => return .char '\x07' false
  | 'f' => return .char '\x0c' false
  | 't' => return .char '\t' false
  | 'n' => return .char '\n' false
  | 'r' => return .char '\r' false
  | 'v' => return .char '\x0b' false
  | 'A' => return .anchor .textStart
  | 'z' => return .anchor .textEnd
  | 'b' => return .anchor (← wordEdge u)
  | 'B' => return .anchor (.noWordEdge u)
  | '<' => return .anchor (.wordStart u)
  | '>' => return .anchor (.wordEnd u)
  | _ => fail

end ScreenAgent.Pattern
