namespace ScreenAgent.Unicode

/-- Ascending, separate ranges of code points, both ends included. -/
abbrev Ranges := List (Nat × Nat)

namespace Ranges

/-- Names of a set in lower case without separators, and the text of its ranges. -/
abbrev Entry := List String × List String

def last : Nat := 0x10FFFF

def contains (r : Ranges) (n : Nat) : Bool :=
  r.any fun p => p.1 ≤ n && n ≤ p.2

/-- Joins a range with those after it that it touches or overlaps, which must ascend by lower ends;
the joined range goes on absorbing, since it can reach past several of them. -/
def absorb (p : Nat × Nat) : Ranges → Ranges
  | [] => [p]
  | q :: r => if q.1 ≤ p.2 + 1 then absorb (p.1, max p.2 q.2) r else p :: absorb q r

/-- Joins ranges that touch or overlap; the list must ascend by lower ends. -/
def merge : Ranges → Ranges
  | [] => []
  | p :: r => absorb p r

/-- Puts any list of ranges in order; ranges with no member are dropped. -/
def ofList (l : List (Nat × Nat)) : Ranges :=
  merge ((l.filter fun p => p.1 ≤ p.2).mergeSort fun p q => p.1 ≤ q.1)

def union (a b : Ranges) : Ranges := ofList (a ++ b)

/-- The code points from `next` on that no range holds. -/
def gaps (next : Nat) : Ranges → Ranges
  | [] => if next ≤ last then [(next, last)] else []
  | p :: r => if next < p.1 then (next, p.1 - 1) :: gaps (p.2 + 1) r else gaps (p.2 + 1) r

def complement (r : Ranges) : Ranges := gaps 0 r

def inter (a b : Ranges) : Ranges := complement (union (complement a) (complement b))

def diff (a b : Ranges) : Ranges := inter a (complement b)

def symmDiff (a b : Ranges) : Ranges := union (diff a b) (diff b a)

/-- The six bits that a letter of the table text stands for. -/
def bits (c : Char) : Nat :=
  let n := c.toNat
  if n ≥ 97 then n - 61 else if n == 95 then 63 else if n ≥ 65 then n - 55
  else if n ≥ 48 then n - 48 else 62

/-- Reads the numbers of a table text: a letter below 32 ends its number. -/
def numbers (low weight : Nat) : List Char → List Nat
  | [] => []
  | c :: r =>
    if bits c < 32 then (low + weight * bits c) :: numbers 0 1 r
    else numbers (low + weight * (bits c - 32)) (weight * 32) r

/-- Turns gaps and lengths into ranges that start at `next` or later. -/
def ofGaps (next : Nat) : List Nat → Ranges
  | gap :: more :: r => (next + gap, next + gap + more) :: ofGaps (next + gap + more + 1) r
  | _ => []

def ofText (parts : List String) : Ranges :=
  ofGaps 0 (numbers 0 1 (parts.flatMap String.toList))

def named? (table : List Entry) (name : String) : Option Ranges :=
  (table.find? fun e => e.1.contains name).map fun e => ofText e.2

def unionOf (table : List Entry) (names : List String) : Ranges :=
  ofList (names.flatMap fun n => (named? table n).getD [])

end Ranges

end ScreenAgent.Unicode
