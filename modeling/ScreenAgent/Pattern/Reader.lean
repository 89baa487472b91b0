import ScreenAgent.Pattern.Bracket
import ScreenAgent.Pattern.Layout
import ScreenAgent.Unicode.Latest

namespace ScreenAgent.Pattern

open Unicode (Ranges)
open Reader

def count : Reader Nat := do
  setRest ((← rest).dropWhile Text.isBlank)
  let digits ← run Text.isDigit (← size)
  let _ ← run Text.isBlank (← size)
  match Text.decimal? digits with
  | some n => check (n < UInt32.size); return n
  | none => fail

/-- The least and most repetitions between braces; the opening brace comes next. -/
def range : Reader (Nat × Option Nat) := do
  step
  let least ← count
  let most ← if ← sees ',' then do
      step
      if ← sees '\x7d' then pure none else some <$> count
    else pure (some least)
  check (← sees '\x7d')
  check (most.all (least ≤ ·))
  bump
  space
  return (least, most)

/-- One literal character. Outside Unicode two hexadecimal digits name a byte, which is a character
only within ASCII. -/
def literal (c : Char) (short : Bool) : Reader Part := do
  let f ← flags
  check (f.unicode || c.toNat < 128 || !short)
  let set : Ranges := [(c.toNat, c.toNat)]
  let form : Form := if !f.ignoreCase then .text [c]
    else .ofSet (if f.unicode then Unicode.caseClosure set else Unicode.asciiCaseClosure set)
  return { form }

def anyChar : Reader Part := do
  let f ← flags
  check f.unicode
  let ends : Ranges := if f.dotAll then [] else if f.returns then [(10, 10), (13, 13)] else [(10, 10)]
  return { form := .ofSet ends.complement }

/-- Characters of a group name: any letter or underscore, and from the second place on numbers,
points and brackets too. -/
def isNameChar (first : Bool) (c : Char) : Bool :=
  c == '_' || Unicode.Latest.isLetter c ||
    (!first && (c == '.' || c == '[' || c == ']' || Unicode.Latest.isNumber c))

/-- The name of a group up to its closing angle bracket. No two groups share a name. -/
def groupName : Reader Unit := do
  let name := (← rest).takeWhile (· != '>')
  setRest ((← rest).drop name.length)
  check (← takes ">")
  match name with
  | [] => fail
  | c :: r => check (isNameChar true c && r.all (isNameChar false))
  check (!(← get).names.contains name)
  modify fun c => { c with names := name :: c.names }

def Flags.set? (f : Flags) (letter : Char) (on : Bool) : Option Flags :=
  match letter with
  | 'i' => some { f with ignoreCase := on }
  | 'm' => some { f with multiLine := on }
  | 's' => some { f with dotAll := on }
  | 'U' => some { f with greedy := !on }
  | 'u' => some { f with unicode := on }
  | 'R' => some { f with returns := on }
  | 'x' => some { f with spaced := on }
  | _ => none

/-- Letters of flags up to a colon or a closing parenthesis. One hyphen may turn the letters after it
off, no letter may repeat, and a hyphen may not be last. -/
def flagLetters : (seen : List Char) → Flags → List Char → Option (List Char × Flags × List Char)
  | _, _, [] => none
  | seen, f, c :: r =>
    if c == ':' || c == ')' then
      if seen.head? == some '-' then none else some (seen, f, c :: r)
    else if seen.contains c then none
    else if c == '-' then flagLetters (c :: seen) f r
    else (f.set? c (!seen.contains '-')).bind fun f => flagLetters (c :: seen) f r

def sequence : List Part → Part
  | [p] => { p with repeatable := true }
  | ps => { form := .sequence (ps.map Part.form)
            depth := if ps = [] then 0 else ps.foldl (fun d p => max d p.depth) 0 + 1 }

def alternatives : List Part → Part
  | [p] => p
  | ps => { form := .alternatives (ps.map Part.form)
            depth := ps.foldl (fun d p => max d p.depth) 0 + 1 }

/-- The last part may be repeated if it is there and is more than flags. A question mark behind a
repetition turns its greed around. -/
def repeated (parts : List Part) (least : Nat) (most : Option Nat) : Reader (List Part) := do
  match parts with
  | p :: ps =>
    check p.repeatable
    let lazy ← sees '?'
    if lazy then bump
    let form := p.form.repeated least most ((← flags).greedy != lazy)
    return { form, depth := p.depth + 1 } :: ps
  | [] => fail

mutual

/-- Alternatives up to a closing parenthesis or the end; `done` are those before, the last first. -/
def choice : (fuel : Nat) → (done : List Part) → Reader Part
  | 0, _ => fail
  | fuel + 1, done => do
    let branch ← parts fuel []
    if ← takes "|" then choice fuel (branch :: done)
    else return alternatives (branch :: done).reverse

/-- Parts up to a bar, a closing parenthesis or the end; `done` are those before, the last first. -/
def parts : (fuel : Nat) → (done : List Part) → Reader Part
  | 0, _ => fail
  | fuel + 1, done => do
    space
    match ← rest with
    | [] => return sequence done.reverse
    | c :: _ =>
      match c with
      | '|' | ')' => return sequence done.reverse
      | '(' => parts fuel ((← group fuel) :: done)
      | '[' =>
        let (set, depth) ← bracketed fuel
        parts fuel ({ form := .ofSet set, depth } :: done)
      | '*' => bump; parts fuel (← repeated done 0 none)
      | '+' => bump; parts fuel (← repeated done 1 none)
      | '?' => bump; parts fuel (← repeated done 0 (some 1))
      | '\x7b' =>
        let (least, most) ← range
        parts fuel (← repeated done least most)
      | '.' => bump; parts fuel ((← anyChar) :: done)
      | '^' =>
        bump
        let f ← flags
        let a : Anchor := if !f.multiLine then .textStart
          else if f.returns then .returnLineStart else .lineStart
        parts fuel ({ form := .anchor a } :: done)
      | '$' =>
        bump
        let f ← flags
        let a : Anchor := if !f.multiLine then .textEnd
          else if f.returns then .returnLineEnd else .lineEnd
        parts fuel ({ form := .anchor a } :: done)
      | '\\' =>
        match ← escape with
        | .char c short => parts fuel ((← literal c short) :: done)
        | .set r => parts fuel ({ form := .ofSet r } :: done)
        | .anchor a => parts fuel ({ form := .anchor a } :: done)
      | c => bump; parts fuel ((← literal c false) :: done)

/-- A group, or flags that hold up to the end of the group around them; the opening parenthesis comes
next. -/
def group : (fuel : Nat) → Reader Part
  | 0 => fail
  | fuel + 1 => do
    bump
    space
    let outer ← flags
    if (← takes "?=") || (← takes "?!") || (← takes "?<=") || (← takes "?<!") then fail
    let mut noted := true
    if (← takes "?P<") || (← takes "?<") then groupName
    else if ← takes "?" then
      match flagLetters [] outer (← rest) with
      | none => fail
      | some (seen, f, r) =>
        setRest (r.drop 1)
        setFlags f
        noted := false
        if r.head? == some ')' then
          check (seen != [])
          return { form := .empty, repeatable := false }
    let inner ← choice fuel []
    check (← takes ")")
    setFlags outer
    return { form := if noted then .group inner.form else inner.form, depth := inner.depth + 1 }

end

inductive Fault
  | malformed
  | tooLarge
deriving DecidableEq

def Fault.message : Fault → String
  | malformed => "regex parse error:"
  | tooLarge => "Compiled regex exceeds size limit of 10485760 bytes."

def read (source : List Char) : Except Fault Pattern :=
  match choice (2 * source.length + 2) [] { rest := source, flags := {}, names := [] } with
  | some (part, c) =>
    if c.rest = [] ∧ part.depth ≤ depthLimit then
      if part.form.isSmall then .ok part.form.toPattern else .error .tooLarge
    else .error .malformed
  | none => .error .malformed

end ScreenAgent.Pattern
