import ScreenAgent.Pattern.Form
import ScreenAgent.Text.Blank
import ScreenAgent.Text.Integer

namespace ScreenAgent.Pattern

/-- What the letters of a flag group turn on and off. -/
structure Flags where
  ignoreCase : Bool := false
  multiLine : Bool := false
  dotAll : Bool := false
  greedy : Bool := true
  unicode : Bool := true
  returns : Bool := false
  spaced : Bool := false

structure Cursor where
  rest : List Char
  flags : Flags
  names : List (List Char)

abbrev Reader := StateT Cursor Option

/-- Part of a pattern: its form, how deep it nests as written, and whether it may be repeated. -/
structure Part where
  form : Form
  depth : Nat := 0
  repeatable : Bool := true

namespace Reader

def fail {α : Type} : Reader α := fun _ => none

def check (b : Bool) : Reader Unit := if b then pure () else fail

def flags : Reader Flags := return (← get).flags

def setFlags (f : Flags) : Reader Unit := modify fun c => { c with flags := f }

def rest : Reader (List Char) := return (← get).rest

def setRest (r : List Char) : Reader Unit := modify fun c => { c with rest := r }

def peek : Reader Char := do
  match ← rest with
  | c :: _ => return c
  | [] => fail

def sees (c : Char) : Reader Bool := return (← rest).head? == some c

def bump : Reader Unit := do setRest ((← rest).drop 1)

/-- Passes over blanks and comments; `inside` tells whether a comment has begun. -/
def afterSpace : (inside : Bool) → List Char → List Char
  | _, [] => []
  | true, c :: r => afterSpace (c != '\n') r
  | false, c :: r => if Text.isBlank c then afterSpace false r
    else if c == '#' then afterSpace true r else c :: r

/-- Blanks and comments mean nothing where the pattern is spaced out. -/
def space : Reader Unit := do if (← flags).spaced then setRest (afterSpace false (← rest))

/-- Passes over one character and the blanks after it; something has to follow. -/
def step : Reader Unit := do
  bump
  space
  check ((← rest) != [])

def takes (wanted : String) : Reader Bool := do
  let r ← rest
  if wanted.toList.isPrefixOf r then
    setRest (r.drop wanted.length)
    return true
  else return false

/-- The character after the next one, past blanks where they mean nothing. -/
def second : Reader (Option Char) := do
  let r := (← rest).drop 1
  if (← flags).spaced then
    let r := r.dropWhile Text.isBlank
    return (if r.head? == some '#' then (r.drop 1).dropWhile Text.isBlank else r).head?
  else return r.head?

/-- The longest run of characters of a kind, passing over what means nothing between them. -/
def run (p : Char → Bool) : (fuel : Nat) → Reader (List Char)
  | 0 => return []
  | fuel + 1 => do
    match ← rest with
    | c :: _ =>
      if p c then
        bump
        space
        return c :: (← run p fuel)
      else return []
    | [] => return []

/-- The number of characters left, which bounds every loop of the reader. -/
def size : Reader Nat := return (← rest).length

end Reader

end ScreenAgent.Pattern
