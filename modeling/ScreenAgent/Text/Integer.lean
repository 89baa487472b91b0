namespace ScreenAgent.Text

def digit? (c : Char) : Option Nat :=
  if '0' ≤ c ∧ c ≤ '9' then some (c.toNat - 48) else none

def isDigit (c : Char) : Bool := (digit? c).isSome

def hexDigit? (c : Char) : Option Nat :=
  if '0' ≤ c ∧ c ≤ '9' then some (c.toNat - 48)
  else if 'a' ≤ c ∧ c ≤ 'f' then some (c.toNat - 87)
  else if 'A' ≤ c ∧ c ≤ 'F' then some (c.toNat - 55)
  else none

/-- The number that digits in a base spell, after `start` has been read already. -/
def spelled (base start : Nat) : List Nat → Nat := List.foldl (fun n d => n * base + d) start

def decimal? (s : List Char) : Option Nat :=
  if s = [] then none else (s.mapM digit?).map (spelled 10 0)

def hexadecimal? (s : List Char) : Option Nat :=
  if s = [] then none else (s.mapM hexDigit?).map (spelled 16 0)

/-- A number below `bound` in decimal digits, with a plus sign allowed in front. -/
def natural? (bound : Nat) (s : List Char) : Option Nat :=
  (decimal? (if s.head? = some '+' then s.tail else s)).filter (· < bound)

/-- A number from `low` to `high` in decimal digits, with a sign allowed in front. -/
def integer? (low high : Int) (s : List Char) : Option Int :=
  let value : Option Int := match s with
    | '-' :: r => (decimal? r).map fun n => -(n : Int)
    | '+' :: r => (decimal? r).map Int.ofNat
    | r => (decimal? r).map Int.ofNat
  value.filter fun z => low ≤ z ∧ z ≤ high

def ofNat (n : Nat) : List Char := Nat.toDigits 10 n

def ofInt (z : Int) : List Char := if z < 0 then '-' :: ofNat z.natAbs else ofNat z.natAbs

def padded (width n : Nat) : List Char := (ofNat n).leftpad width '0'

def hexOfNat (n : Nat) : List Char := Nat.toDigits 16 n

end ScreenAgent.Text
