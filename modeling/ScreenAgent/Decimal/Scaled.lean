import ScreenAgent.Text.Integer

namespace ScreenAgent.Decimal

/-- Takes digits while the number they spell fits 64 bits; answers that number and what is left. -/
def gather (taken : Nat) : List Char → Nat × List Char
  | [] => (taken, [])
  | c :: r =>
    let next := taken * 10 + (Text.digit? c).getD 0
    if next < UInt64.size then gather next r else (taken, c :: r)

def tenTo (n : Nat) : Float := Float.ofScientific 1 false n

/-- Multiplies by a power of ten, in steps that are themselves finite. -/
def scale : Nat → Float → Int → Option Float
  | 0, f, _ => some f
  | steps + 1, f, exponent =>
    if exponent.natAbs ≤ 308 then
      if 0 ≤ exponent then
        let product := f * tenTo exponent.toNat
        if product.isInf then none else some product
      else some (f / tenTo exponent.natAbs)
    else if f == 0 then some f
    else if 0 ≤ exponent then none
    else scale steps (f / tenTo 308) (exponent + 308)

def exponentBound : Int := 2147483647

/-- Reads a decimal from its sign, whole digits, fraction digits, and exponent with its sign. -/
def toFloat? (negative : Bool) (whole fraction : List Char) (exponent : Option (Bool × List Char)) :
    Option Float :=
  let (head, uncounted) := gather 0 whole
  let (mantissa, unread) := gather head fraction
  let start : Int := uncounted.length - (fraction.length - unread.length : Nat)
  let size : Option Float :=
    match exponent with
    | none => scale (start.natAbs / 308 + 2) (UInt64.ofNat mantissa).toFloat start
    | some (down, digits) =>
      let shift : Int := Text.spelled 10 0 (digits.filterMap Text.digit?)
      if exponentBound < shift then
        if mantissa ≠ 0 ∧ down = false then none else some 0
      else
        let moved := if down then max (start - shift) (-exponentBound - 1)
          else min (start + shift) exponentBound
        scale (moved.natAbs / 308 + 2) (UInt64.ofNat mantissa).toFloat moved
  size.map fun f => if negative then -f else f

end ScreenAgent.Decimal
