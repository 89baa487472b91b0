import ScreenAgent.Pattern.Basic

namespace ScreenAgent.Pattern

open Unicode (Ranges)

/-- A pattern in simple form. A group matters only since its place has to be noted, and greed only
since it tells patterns apart. -/
inductive Form
  | empty
  | text (characters : List Char)
  | set (ranges : Ranges)
  | anchor (condition : Anchor)
  | group (body : Form)
  | times (body : Form) (least : Nat) (most : Option Nat) (greedy : Bool)
  | seq (parts : List Form)
  | either (branches : List Form)

namespace Form

mutual

def toPattern : Form → Pattern
  | empty => .empty
  | text s => s.foldr (fun c p => .seq (.one [(c.toNat, c.toNat)]) p) .empty
  | set r => .one r
  | anchor a => .anchor a
  | group f => f.toPattern
  | times f least most _ => .times f.toPattern least most
  | seq parts => sequencePattern parts
  | either branches => choicePattern branches

def sequencePattern : List Form → Pattern
  | [] => .empty
  | f :: r => .seq f.toPattern (sequencePattern r)

def choicePattern : List Form → Pattern
  | [] => .one []
  | f :: r => .either f.toPattern (choicePattern r)

end

mutual

/-- The least number of characters of a match, if there can be one. -/
def shortest : Form → Option Nat
  | empty => some 0
  | text s => some s.length
  | set r => if r.isEmpty then none else some 1
  | anchor _ => some 0
  | group f => f.shortest
  | times f least _ _ => f.shortest.map (· * least)
  | seq parts => shortestSum parts
  | either branches => shortestMin branches

def shortestSum : List Form → Option Nat
  | [] => some 0
  | f :: r => f.shortest.bind fun n => (shortestSum r).map (n + ·)

def shortestMin : List Form → Option Nat
  | [] => none
  | [f] => f.shortest
  | f :: r => f.shortest.bind fun n => (shortestMin r).map (min n)

end

mutual

/-- The greatest number of characters of a match, if there can be one and there is a greatest. -/
def longest : Form → Option Nat
  | empty => some 0
  | text s => some s.length
  | set r => if r.isEmpty then none else some 1
  | anchor _ => some 0
  | group f => f.longest
  | times f _ most _ => most.bind fun m => f.longest.map (· * m)
  | seq parts => longestSum parts
  | either branches => longestMax branches

def longestSum : List Form → Option Nat
  | [] => some 0
  | f :: r => f.longest.bind fun n => (longestSum r).map (n + ·)

def longestMax : List Form → Option Nat
  | [] => none
  | [f] => f.longest
  | f :: r => f.longest.bind fun n => (longestMax r).map (max n)

end

mutual

/-- Whether two forms are the same. No two groups are, since each has a place of its own. -/
def same : Form → Form → Bool
  | empty, empty => true
  | text s, text t => s == t
  | set r, set s => r == s
  | anchor a, anchor b => a == b
  | times f l m g, times f' l' m' g' => l == l' && m == m' && g == g' && f.same f'
  | seq fs, seq gs => allSame fs gs
  | either fs, either gs => allSame fs gs
  | _, _ => false

def allSame : List Form → List Form → Bool
  | [], [] => true
  | f :: r, g :: s => f.same g && allSame r s
  | _, _ => false

end

/-- How many parts two sequences have in common at their start. -/
def agreement : List Form → List Form → Nat
  | f :: r, g :: s => if f.same g then agreement r s + 1 else 0
  | _, _ => 0

/-- The form of one character of a set. Surrogates are no characters. -/
def ofSet (r : Ranges) : Form :=
  match r.diff [(0xD800, 0xDFFF)] with
  | [(a, b)] => if a = b then text [Char.ofNat a] else set [(a, b)]
  | r => set r

/-- Puts a part before others; texts that meet become one. -/
def before : Form → List Form → List Form
  | empty, parts => parts
  | text s, text t :: r => text (s ++ t) :: r
  | f, parts => f :: parts

def partsOf : Form → List Form
  | seq parts => parts
  | f => [f]

def sequence (fs : List Form) : Form :=
  match (fs.flatMap partsOf).foldr before [] with
  | [] => empty
  | [f] => f
  | parts => seq parts

def branchesOf : Form → List Form
  | either branches => branches
  | f => [f]

/-- The one set that alternatives make up if all of them are single characters, or all are sets. -/
def union? (branches : List Form) : Option Form :=
  let character? : Form → Option (Nat × Nat)
    | text [c] => some (c.toNat, c.toNat)
    | _ => none
  let set? : Form → Option Ranges
    | set r => some r
    | _ => none
  (branches.mapM character?).or ((branches.mapM set?).map List.flatten) |>.map
    fun r => ofSet (.ofList r)

/-- The parts that all alternatives begin with if all are sequences, and what is left of each. -/
def commonStart? (branches : List Form) : Option (List Form × List Form) :=
  let sequence? : Form → Option (List Form)
    | seq parts => some parts
    | _ => none
  match branches.mapM sequence? with
  | some (first :: others) =>
    let n := others.foldl (fun n parts => min n (agreement first parts)) first.length
    if n = 0 then none
    else some (first.take n, (first :: others).map fun parts => sequence (parts.drop n))
  | _ => none

/-- Several alternatives that have no common start. -/
def choice (fs : List Form) : Form :=
  let branches := fs.flatMap branchesOf
  (union? branches).getD (either branches)

/-- One form or the other. What is left behind a common start has none in common any more. -/
def alternatives (fs : List Form) : Form :=
  match fs.flatMap branchesOf with
  | [] => set []
  | [f] => f
  | branches => match union? branches, commonStart? branches with
    | some f, _ => f
    | none, some (start, rests) => sequence (start ++ [choice rests])
    | none, none => either branches

def repeated (f : Form) (least : Nat) (most : Option Nat) (greedy : Bool) : Form :=
  let hollow := f.longest = some 0
  let least := if hollow then min least 1 else least
  let most := if hollow then some (most.elim 1 (min · 1)) else most
  if most = some 0 then empty
  else if least = 1 ∧ most = some 1 then f
  else times f least most greedy

end Form

end ScreenAgent.Pattern
