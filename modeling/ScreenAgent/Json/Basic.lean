import ScreenAgent.Decimal.Scaled
import ScreenAgent.Decimal.Shortest

namespace ScreenAgent

/-- A number by its spelling; `exponent` is whether it is negative, and its digits. -/
structure Numeral where
  negative : Bool
  whole : List Char
  fraction : List Char
  exponent : Option (Bool × List Char)
deriving DecidableEq

inductive Json
  | null
  | bool (value : Bool)
  | number (value : Numeral)
  | string (text : Option String)
  | array (items : List Json)
  | object (members : List (Option String × Json))
deriving Inhabited

namespace Numeral

def ofNat (n : Nat) : Numeral := ⟨false, Text.ofNat n, [], none⟩

def ofInt (z : Int) : Numeral := ⟨z < 0, Text.ofNat z.natAbs, [], none⟩

/-- The whole number that a numeral spells. One with a fraction or an exponent spells none, and
neither does minus zero. -/
def toInt? (n : Numeral) : Option Int :=
  if n.fraction ≠ [] ∨ n.exponent.isSome then none
  else (Text.decimal? n.whole).bind fun v =>
    if n.negative then if v = 0 then none else some (-(v : Int)) else some v

def toFloat? (n : Numeral) : Option Float :=
  Decimal.toFloat? n.negative n.whole n.fraction n.exponent

/-- The spelling of a finite number: the shortest decimal, positional from `0.00001` up to but not
including `10 ^ 16`, with at least one digit on each side of the point, and otherwise with one digit
before the point and a signed exponent. -/
def ofFloat (f : Float) : Numeral :=
  let bits := f.toBits
  let negative := 1 <<< 63 ≤ bits.toNat
  let v := Decimal.Magnitude.ofBits bits
  if v.mantissa = 0 then ⟨negative, ['0'], ['0'], none⟩
  else
    let (digits, grid) := Decimal.shortest v
    let ds := Text.ofNat digits
    let point := ds.length + grid
    if -5 < point ∧ point ≤ 0 then
      ⟨negative, ['0'], List.replicate (-point).toNat '0' ++ ds, none⟩
    else if 0 < point ∧ point ≤ 16 then
      if 0 ≤ grid then ⟨negative, ds ++ List.replicate grid.toNat '0', ['0'], none⟩
      else ⟨negative, ds.take point.toNat, ds.drop point.toNat, none⟩
    else ⟨negative, ds.take 1, ds.drop 1, some (point - 1 < 0, Text.ofNat (point - 1).natAbs)⟩

end Numeral

namespace Json

def text (s : String) : Json := .string (some s)

def nat (n : Nat) : Json := .number (.ofNat n)

def int (z : Int) : Json := .number (.ofInt z)

def ofOption {α : Type} (encode : α → Json) : Option α → Json
  | none => .null
  | some a => encode a

def ofMembers (members : List (String × Json)) : Json :=
  .object (members.map fun m => (some m.1, m.2))

end Json

end ScreenAgent
