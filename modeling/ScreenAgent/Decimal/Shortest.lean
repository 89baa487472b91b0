namespace ScreenAgent.Decimal

/-- The size of a finite binary64 number, `mantissa * 2 ^ power`. The neighbour below stands at half
the usual distance when the mantissa is the least of its power. -/
structure Magnitude where
  mantissa : Nat
  power : Int
  least : Bool

def Magnitude.ofBits (bits : UInt64) : Magnitude :=
  let fraction : Nat := bits.toNat % (1 <<< 52)
  let exponent : Nat := bits.toNat >>> 52 % 2048
  if exponent = 0 then ⟨fraction, -1074, false⟩
  else ⟨1 <<< 52 + fraction, (exponent : Int) - 1075, fraction = 0 && 1 < exponent⟩

/-- The whole multiple of `10 ^ grid` nearest to a number, if one lies so near that it reads back as
this number. Everything is measured in quarters of the unit of the mantissa; an exact tie goes to the
even multiple. -/
def Magnitude.onGrid? (v : Magnitude) (grid : Int) : Option Nat :=
  let quarter := v.power - 2
  let cell := Nat.pow 10 grid.toNat <<< (-quarter).toNat
  let unit := Nat.pow 10 (-grid).toNat <<< quarter.toNat
  let here := 4 * v.mantissa * unit
  let low := (4 * v.mantissa - if v.least then 1 else 2) * unit
  let high := (4 * v.mantissa + 2) * unit
  let reads (n : Nat) : Bool := 0 < n &&
    if v.mantissa % 2 = 0 then low ≤ n * cell && n * cell ≤ high
    else low < n * cell && n * cell < high
  let below := here / cell
  let above := below + 1
  let nearBelow : Bool :=
    let d := here - below * cell
    let u := above * cell - here
    d < u || (d == u && below % 2 == 0)
  match reads below, reads above with
  | true, true => some (if nearBelow then below else above)
  | true, false => some below
  | false, true => some above
  | false, false => none

/-- The digits of the shortest decimal of a number above zero as one whole number, and the power of
ten they are multiplied by. Coarser grids come first. -/
def shortest (v : Magnitude) : Nat × Int :=
  ((List.range 660).findSome? fun (i : Nat) =>
    let grid := 309 - (i : Int)
    (v.onGrid? grid).map fun n => (n, grid)).getD (0, 0)

end ScreenAgent.Decimal
