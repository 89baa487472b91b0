import ScreenAgent.Text.Integer

namespace ScreenAgent.Hierarchy

/-- A character by its number; halves of surrogate pairs are none. -/
def scalar? (n : Nat) : Option Char := if n.isValidChar then some (Char.ofNat n) else none

def named? : List Char → Option Char
  | ['a', 'm', 'p'] => some '&'
  | ['l', 't'] => some '<'
  | ['g', 't'] => some '>'
  | ['q', 'u', 'o', 't'] => some '"'
  | ['a', 'p', 'o', 's'] => some '\''
  | '#' :: 'x' :: digits => (Text.hexadecimal? digits).bind scalar?
  | '#' :: digits => (Text.decimal? digits).bind scalar?
  | _ => none

/-- The character of a reference that begins behind an ampersand, and how many characters belong to
it, the semicolon included. -/
def reference? (s : List Char) : Option (Char × Nat) :=
  let name := s.takeWhile (· != ';')
  if s[name.length]? = some ';' then (named? name).map fun c => (c, name.length + 1) else none

/-- A value with characters in the place of references. The first `skip` characters belong to a
reference that has been read. -/
def unescapeFrom : (skip : Nat) → List Char → List Char
  | _, [] => []
  | skip + 1, _ :: r => unescapeFrom skip r
  | 0, c :: r =>
    if c = '&' then
      match reference? r with
      | some (named, size) => named :: unescapeFrom size r
      | none => c :: unescapeFrom 0 r
    else c :: unescapeFrom 0 r

def unescape (s : List Char) : List Char := unescapeFrom 0 s

end ScreenAgent.Hierarchy
