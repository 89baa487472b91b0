import ScreenAgent.Json.Basic

namespace ScreenAgent.Json

def isSpace (c : Char) : Bool := c == ' ' || c == '\n' || c == '\t' || c == '\r'

def skipSpace (s : List Char) : List Char := s.dropWhile isSpace

def literalBody : List Char → Option (List Char × List Char)
  | [] => none
  | '"' :: r => some ([], r)
  | '\\' :: c :: r => (literalBody r).map fun p => ('\\' :: c :: p.1, p.2)
  | c :: r => if c.toNat < 32 then none else (literalBody r).map fun p => (c :: p.1, p.2)

/-- Part of a string literal: a character, or a sixteen-bit unit given by its number. -/
inductive Piece
  | char (c : Char)
  | unit (n : Nat)

def escape? : Char → Option Char
  | '"' => some '"'
  | '\\' => some '\\'
  | '/' => some '/'
  | 'b' => some '\x08'
  | 'f' => some '\x0c'
  | 'n' => some '\n'
  | 'r' => some '\r'
  | 't' => some '\t'
  | _ => none

def literalPieces : List Char → Option (List Piece)
  | [] => some []
  | '\\' :: 'u' :: a :: b :: c :: d :: r => do
    let n ← Text.hexadecimal? [a, b, c, d]
    return .unit n :: (← literalPieces r)
  | '\\' :: c :: r => do
    let e ← escape? c
    return .char e :: (← literalPieces r)
  | ['\\'] => none
  | c :: r => do return .char c :: (← literalPieces r)

def isHigh (n : Nat) : Bool := 0xD800 ≤ n && n ≤ 0xDBFF

def isLow (n : Nat) : Bool := 0xDC00 ≤ n && n ≤ 0xDFFF

/-- Joins surrogate pairs; a half without its partner leaves the whole without text. -/
def joinPieces : List Piece → Option (List Char)
  | [] => some []
  | .char c :: r => (joinPieces r).map (c :: ·)
  | .unit n :: .unit m :: r =>
    if isHigh n && isLow m then
      (joinPieces r).map (Char.ofNat (0x10000 + (n - 0xD800) * 1024 + (m - 0xDC00)) :: ·)
    else if isHigh n || isLow n then none
    else (joinPieces (.unit m :: r)).map (Char.ofNat n :: ·)
  | .unit n :: r => if isHigh n || isLow n then none else (joinPieces r).map (Char.ofNat n :: ·)

def literal? (s : List Char) : Option (Option String × List Char) := do
  let (body, rest) ← literalBody s
  let parts ← literalPieces body
  return ((joinPieces parts).map String.ofList, rest)

def fraction? : List Char → Option (List Char × List Char)
  | '.' :: r => match r.span Text.isDigit with
    | ([], _) => none
    | p => some p
  | r => some ([], r)

def exponentDigits? (down : Bool) (s : List Char) : Option (Option (Bool × List Char) × List Char) :=
  match s.span Text.isDigit with
  | ([], _) => none
  | (ds, r) => some (some (down, ds), r)

def exponent? : List Char → Option (Option (Bool × List Char) × List Char)
  | c :: r =>
    if c == 'e' || c == 'E' then
      match r with
      | '-' :: r => exponentDigits? true r
      | '+' :: r => exponentDigits? false r
      | r => exponentDigits? false r
    else some (none, c :: r)
  | [] => some (none, [])

/-- A number: no leading zeros, and digits on both sides of a point. -/
def numeral? (s : List Char) : Option (Numeral × List Char) := do
  let negative := s.head? == some '-'
  let (whole, r) := (if negative then s.tail else s).span Text.isDigit
  if whole = [] ∨ (whole.head? = some '0' ∧ whole.length ≠ 1) then none
  let (fraction, r) ← fraction? r
  let (exponent, r) ← exponent? r
  return (⟨negative, whole, fraction, exponent⟩, r)

mutual

def value? : Nat → List Char → Option (Json × List Char)
  | 0, _ => none
  | n + 1, s => match skipSpace s with
    | 'n' :: 'u' :: 'l' :: 'l' :: r => some (.null, r)
    | 't' :: 'r' :: 'u' :: 'e' :: r => some (.bool true, r)
    | 'f' :: 'a' :: 'l' :: 's' :: 'e' :: r => some (.bool false, r)
    | '"' :: r => (literal? r).map fun p => (.string p.1, p.2)
    | '[' :: r => match skipSpace r with
      | ']' :: r => some (.array [], r)
      | r => (items? n r).map fun p => (.array p.1, p.2)
    | '\x7b' :: r => match skipSpace r with
      | '\x7d' :: r => some (.object [], r)
      | r => (members? n r).map fun p => (.object p.1, p.2)
    | r => (numeral? r).map fun p => (.number p.1, p.2)

def items? : Nat → List Char → Option (List Json × List Char)
  | 0, _ => none
  | n + 1, s => do
    let (j, r) ← value? n s
    match skipSpace r with
    | ',' :: r => let (js, r) ← items? n r; return (j :: js, r)
    | ']' :: r => return ([j], r)
    | _ => none

def members? : Nat → List Char → Option (List (Option String × Json) × List Char)
  | 0, _ => none
  | n + 1, s => match skipSpace s with
    | '"' :: r => do
      let (key, r) ← literal? r
      match skipSpace r with
      | ':' :: r =>
        let (j, r) ← value? n r
        match skipSpace r with
        | ',' :: r => let (ms, r) ← members? n r; return ((key, j) :: ms, r)
        | '\x7d' :: r => return ([(key, j)], r)
        | _ => none
      | _ => none
    | _ => none

end

/-- Reads a text that is one value with nothing but white space around it. -/
def read? (s : List Char) : Option Json :=
  match value? (s.length + 1) s with
  | some (j, r) => if skipSpace r = [] then some j else none
  | none => none

def ofString? (s : String) : Option Json := read? s.toList

end ScreenAgent.Json
