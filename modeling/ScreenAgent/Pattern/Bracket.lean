import ScreenAgent.Pattern.Escape

namespace ScreenAgent.Pattern

open Unicode (Ranges)
open Reader

def classItem : Reader (Char ⊕ Ranges) := do
  let c ← peek
  if c == '\\' then
    match ← escape with
    | .char c _ => return .inl c
    | .set r => return .inr r
    | .anchor _ => fail
  else
    bump
    return .inl c

/-- A character of a class. Outside Unicode only those of ASCII stand in one. -/
def classChar (item : Char ⊕ Ranges) : Reader Nat := do
  match item with
  | .inl c =>
    check ((← flags).unicode || c.toNat < 128)
    return c.toNat
  | .inr _ => fail

def classRange : Reader Ranges := do
  let low ← classItem
  space
  check ((← rest) != [])
  let next ← second
  if !(← sees '-') || next == some ']' || next == some '-' then
    match low with
    | .inr r => return r
    | item => let n ← classChar item; return [(n, n)]
  else
    step
    let high ← classItem
    let (a, b) := (← classChar low, ← classChar high)
    check (a ≤ b)
    return [(a, b)]

/-- Equality up to case, and complement, as flags and negation ask for. Outside Unicode the result
has to stay within ASCII. -/
def finishClass (negated : Bool) (set : Ranges) : Reader Ranges := do
  let f ← flags
  if f.unicode then
    let set := if f.ignoreCase then Unicode.caseClosure set else set
    return if negated then set.complement else set
  else
    let set := if f.ignoreCase then Unicode.asciiCaseClosure set else set
    check (!negated && set.all (·.2 < 128))
    return set

/-- A named class of ASCII between brackets and colons, if what comes next is one. -/
def asciiClass : Reader (Option Ranges) := do
  let before ← rest
  let again : Reader (Option Ranges) := do setRest before; return none
  if !(← takes "[:") then again
  else
    let negated ← takes "^"
    let name := (← rest).takeWhile (· != ':')
    setRest ((← rest).drop name.length)
    if !(← takes ":]") then again
    else match asciiClass? (String.ofList name) with
      | some set => return some (← finishClass negated set)
      | none => again

inductive Operator
  | inter
  | diff
  | symmDiff

/-- Applies an operator; both sides are taken up to case where flags ask for it. -/
def Operator.apply (o : Operator) (f : Flags) (a b : Ranges) : Ranges :=
  let fold (r : Ranges) : Ranges := if !f.ignoreCase then r
    else if f.unicode then Unicode.caseClosure r else Unicode.asciiCaseClosure r
  match o with
  | inter => (fold a).inter (fold b)
  | diff => (fold a).diff (fold b)
  | symmDiff => (fold a).symmDiff (fold b)

/-- The items of a class so far: the sets before the last operator, the union after it, how many
items that has, and how deep they nest. -/
structure ClassState where
  pending : Option (Operator × Ranges × Nat) := none
  union : Ranges := []
  items : Nat := 0
  depth : Nat := 0

namespace ClassState

def add (s : ClassState) (set : Ranges) (depth : Nat) : ClassState :=
  { s with union := .union s.union set, items := s.items + 1, depth := max s.depth depth }

def close (s : ClassState) (f : Flags) : Ranges × Nat :=
  let depth := if s.items ≤ 1 then s.depth else s.depth + 1
  match s.pending with
  | none => (s.union, depth)
  | some (o, left, leftDepth) => (o.apply f left s.union, max leftDepth depth + 1)

def operate (s : ClassState) (f : Flags) (o : Operator) : ClassState :=
  let (set, depth) := s.close f
  { pending := some (o, set, depth) }

end ClassState

/-- Hyphens at the start of a class stand for themselves. -/
def leadingHyphens : (fuel : Nat) → ClassState → Reader ClassState
  | 0, s => return s
  | fuel + 1, s => do
    if ← sees '-' then
      step
      leadingHyphens fuel (s.add [(45, 45)] 0)
    else return s

mutual

/-- A bracketed class; its opening bracket comes next. -/
def bracketed : (fuel : Nat) → Reader (Ranges × Nat)
  | 0 => fail
  | fuel + 1 => do
    step
    let negated ← sees '^'
    if negated then step
    let s ← leadingHyphens (← size) {}
    let s ← if s.items == 0 && (← sees ']') then do
        step
        pure (s.add [(93, 93)] 0)
      else pure s
    let (set, depth) ← classItems fuel s
    return (← finishClass negated set, depth + 1)

def classItems : (fuel : Nat) → ClassState → Reader (Ranges × Nat)
  | 0, _ => fail
  | fuel + 1, s => do
    space
    let f ← flags
    if ← sees '[' then
      match ← asciiClass with
      | some set => classItems fuel (s.add set 0)
      | none =>
        let (set, depth) ← bracketed fuel
        classItems fuel (s.add set depth)
    else if ← takes "]" then return s.close f
    else if ← takes "&&" then classItems fuel (s.operate f .inter)
    else if ← takes "--" then classItems fuel (s.operate f .diff)
    else if ← takes "~~" then classItems fuel (s.operate f .symmDiff)
    else classItems fuel (s.add (← classRange) 0)

end

end ScreenAgent.Pattern
