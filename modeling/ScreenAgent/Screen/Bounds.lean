import ScreenAgent.Json.Record

namespace ScreenAgent

structure Coordinate where
  val : Int
  lower : -2147483648 ≤ val := by decide
  upper : val ≤ 2147483647 := by decide
deriving DecidableEq

namespace Coordinate

def ofInt? (z : Int) : Option Coordinate :=
  if h : -2147483648 ≤ z ∧ z ≤ 2147483647 then some ⟨z, h.1, h.2⟩ else none

instance : Inhabited Coordinate := ⟨⟨0, by decide, by decide⟩⟩

def ofJson? (j : Json) : Option Coordinate := (j.integer? (-2147483648) 2147483647).bind ofInt?

def toJson (c : Coordinate) : Json := .int c.val

end Coordinate

/-- A rectangle by its edges. Nothing keeps the right edge right of the left one. -/
structure Bounds where
  left : Coordinate
  top : Coordinate
  right : Coordinate
  bottom : Coordinate
deriving DecidableEq, Inhabited

namespace Bounds

def width? (b : Bounds) : Option Coordinate := Coordinate.ofInt? (b.right.val - b.left.val)

def height? (b : Bounds) : Option Coordinate := Coordinate.ofInt? (b.bottom.val - b.top.val)

/-- The point in the middle: half the width and half the height, rounded toward zero, from the left
and top edges. -/
def center? (b : Bounds) : Option (Coordinate × Coordinate) := do
  let w ← b.width?
  let h ← b.height?
  return (← Coordinate.ofInt? (b.left.val + w.val.tdiv 2),
    ← Coordinate.ofInt? (b.top.val + h.val.tdiv 2))

/-- Whether the rectangle has no area. The height is looked at only if the width is positive. -/
def isEmpty? (b : Bounds) : Option Bool := do
  if (← b.width?).val ≤ 0 then return true
  return (← b.height?).val ≤ 0

def ofJson? (levels : Nat) (j : Json) : Option Bounds := do
  if levels = 0 then none
  let r ← j.record? ["left", "top", "right", "bottom"]
  return ⟨← r.required "left" Coordinate.ofJson?, ← r.required "top" Coordinate.ofJson?,
    ← r.required "right" Coordinate.ofJson?, ← r.required "bottom" Coordinate.ofJson?⟩

def toJson (b : Bounds) : Json :=
  .ofMembers [("left", b.left.toJson), ("top", b.top.toJson), ("right", b.right.toJson),
    ("bottom", b.bottom.toJson)]

end Bounds

end ScreenAgent
