import Mathlib.Tactic.IntervalCases
import ScreenAgent.Bridge.Surface
import ScreenAgent.Proofs.Screen.Bounds

namespace ScreenAgent

namespace Direction

def opposite : Direction → Direction
  | up => down
  | down => up
  | left => right
  | right => left

/-- Of a value for the horizontal and one for the vertical, the one along a direction. -/
def along {α : Type} : Direction → α × α → α
  | up, p | down, p => p.2
  | left, p | right, p => p.1

/-- Of a value for the horizontal and one for the vertical, the one across a direction. -/
def across {α : Type} : Direction → α × α → α
  | up, p | down, p => p.1
  | left, p | right, p => p.2

def pair {α : Type} : Direction → α → α → α × α
  | up, a, b | down, a, b => (a, b)
  | left, a, b | right, a, b => (b, a)

/-- How many tenths of the screen lie before the start of a stroke, and before its end. -/
def tenths : Direction → Int × Int
  | up => (3, 7)
  | down => (7, 3)
  | left => (2, 8)
  | right => (8, 2)

/-- The longest extent along a direction for which the square of the way is a coordinate. -/
def limit : Direction → Nat
  | up | down => 115851
  | left | right => 77233

/-- The finger moves against the content, or not at all. -/
def Against (start finish : Bridge.Point) : Direction → Prop
  | up => start.2.val ≤ finish.2.val
  | down => finish.2.val ≤ start.2.val
  | left => start.1.val ≤ finish.1.val
  | right => finish.1.val ≤ start.1.val

@[simp] theorem along_opposite {α : Type} (d : Direction) (p : α × α) :
    d.opposite.along p = d.along p := by cases d <;> rfl

@[simp] theorem across_opposite {α : Type} (d : Direction) (p : α × α) :
    d.opposite.across p = d.across p := by cases d <;> rfl

@[simp] theorem pair_opposite {α : Type} (d : Direction) (a b : α) :
    d.opposite.pair a b = d.pair a b := by cases d <;> rfl

@[simp] theorem tenths_opposite (d : Direction) : d.opposite.tenths = d.tenths.swap := by
  cases d <;> rfl

@[simp] theorem limit_opposite (d : Direction) : d.opposite.limit = d.limit := by cases d <;> rfl

@[simp] theorem along_pair {α : Type} (d : Direction) (a b : α) : d.along (d.pair a b) = b := by
  cases d <;> rfl

@[simp] theorem across_pair {α : Type} (d : Direction) (a b : α) : d.across (d.pair a b) = a := by
  cases d <;> rfl

theorem along_map {α β : Type} (f : α → β) (d : Direction) (p : α × α) :
    d.along (f p.1, f p.2) = f (d.along p) := by cases d <;> rfl

theorem across_map {α β : Type} (f : α → β) (d : Direction) (p : α × α) :
    d.across (f p.1, f p.2) = f (d.across p) := by cases d <;> rfl

end Direction

namespace BridgeSurface

open Bridge

def way (d : Direction) (extent : Int) : Int :=
  (extent * d.tenths.1).tdiv 10 - (extent * d.tenths.2).tdiv 10

theorem way_opposite (d : Direction) (extent : Int) : way d.opposite extent = -way d extent := by
  rw [way, way, Direction.tenths_opposite]
  exact (Int.neg_sub _ _).symm

theorem way_neg (d : Direction) (extent : Int) : way d (-extent) = -way d extent := by
  simp only [way, Int.neg_mul, Int.neg_tdiv]
  omega

theorem way_natCast (d : Direction) (n : Nat) :
    way d n = n * d.tenths.1 / 10 - n * d.tenths.2 / 10 := by
  have ht : 0 ≤ d.tenths.1 ∧ 0 ≤ d.tenths.2 := by cases d <;> decide
  have hn : (0 : Int) ≤ n := Int.natCast_nonneg n
  rw [way, Int.tdiv_eq_ediv_of_nonneg (Int.mul_nonneg hn ht.1),
    Int.tdiv_eq_ediv_of_nonneg (Int.mul_nonneg hn ht.2)]

/-- The square of the way is a coordinate exactly as long as the extent is within the limit. -/
theorem natAbs_way_le_iff (d : Direction) (extent : Int) :
    (way d extent).natAbs ≤ 46340 ↔ extent.natAbs ≤ d.limit := by
  -- the way and the extent have signs of their own, but their lengths depend on neither
  have hs : (way d extent).natAbs = (way d extent.natAbs).natAbs := by
    obtain h | h := Int.natAbs_eq extent
    · rw [← h]
    · conv_lhs => rw [h, way_neg, Int.natAbs_neg]
  rw [hs, way_natCast]
  generalize extent.natAbs = n
  -- by the last digit
  obtain ⟨q, r, hr, rfl⟩ : ∃ q r, r < 10 ∧ n = 10 * q + r := ⟨n / 10, n % 10, by omega, by omega⟩
  cases d <;> simp only [Direction.tenths, Direction.limit] <;> interval_cases r <;> omega

theorem inRange_tdiv {z m : Int} (h : Coordinate.InRange z) (hm : 0 ≤ m) :
    Coordinate.InRange (z.tdiv m) := by
  obtain ⟨hl, hh⟩ := h
  obtain hz | hz := Int.le_total 0 z
  · have h0 := Int.tdiv_nonneg hz hm
    have hs := Int.tdiv_le_self m hz
    exact ⟨by omega, by omega⟩
  · have h0 := Int.tdiv_nonneg (Int.neg_nonneg_of_nonpos hz) hm
    have hs := Int.tdiv_le_self m (Int.neg_nonneg_of_nonpos hz)
    rw [Int.neg_tdiv] at h0 hs
    exact ⟨by omega, by omega⟩

/-- Some tenths of an extent. The product has to be a coordinate. -/
def part? (extent tenths : Int) : Option Coordinate := do
  Coordinate.ofInt? ((← Coordinate.ofInt? (extent * tenths)).val.tdiv 10)

theorem part?_of_inRange {extent tenths : Int} (h : Coordinate.InRange (extent * tenths)) :
    ∃ c, part? extent tenths = some c ∧ c.val = (extent * tenths).tdiv 10 := by
  obtain ⟨product, hp, hv⟩ := Coordinate.ofInt?_of_inRange h
  obtain ⟨c, hc, hcv⟩ := Coordinate.ofInt?_of_inRange (inRange_tdiv h (by decide : (0 : Int) ≤ 10))
  refine ⟨c, ?_, hcv⟩
  rw [part?, hp, Option.bind_eq_bind, Option.bind_some, hv, hc]

theorem inRange_of_part? {extent tenths : Int} {c : Coordinate} (h : part? extent tenths = some c) :
    Coordinate.InRange (extent * tenths) := by
  by_contra hn
  rw [part?, Coordinate.ofInt?_eq_none_iff.mpr hn] at h
  cases h

theorem exists_middle {extent : Int} (h : Coordinate.InRange extent) :
    ∃ c, Coordinate.ofInt? (extent.tdiv 2) = some c ∧ c.val = extent.tdiv 2 :=
  Coordinate.ofInt?_of_inRange (inRange_tdiv h (by decide))

def strokesIn? (d : Direction) (w h : Int) : Option (Bridge.Point × Bridge.Point) := do
  let cx ← Coordinate.ofInt? (w.tdiv 2)
  let cy ← Coordinate.ofInt? (h.tdiv 2)
  match d with
  | .down => return ((cx, ← part? h 7), (cx, ← part? h 3))
  | .up => return ((cx, ← part? h 3), (cx, ← part? h 7))
  | .right => return ((← part? w 8, cy), (← part? w 2, cy))
  | .left => return ((← part? w 2, cy), (← part? w 8, cy))

theorem strokesIn?_eq (d : Direction) {w h : Int} (hw : Coordinate.InRange w)
    (hh : Coordinate.InRange h) :
    strokesIn? d w h = do
      let middle ← Coordinate.ofInt? ((d.across (w, h)).tdiv 2)
      let start ← part? (d.along (w, h)) d.tenths.1
      let finish ← part? (d.along (w, h)) d.tenths.2
      return (d.pair middle start, d.pair middle finish) := by
  obtain ⟨x, hx, -⟩ := exists_middle hw
  obtain ⟨y, hy, -⟩ := exists_middle hh
  rw [strokesIn?, hx, hy]
  cases d <;> simp only [Direction.across, Direction.along, Direction.tenths, Direction.pair, hx, hy,
    Option.bind_eq_bind, Option.bind_some]

structure Stroke (d : Direction) (w h : Int) (start finish : Bridge.Point) : Prop where
  across_start : (d.across start).val = (d.across (w, h)).tdiv 2
  across_finish : d.across finish = d.across start
  along_start : (d.along start).val = (d.along (w, h) * d.tenths.1).tdiv 10
  along_finish : (d.along finish).val = (d.along (w, h) * d.tenths.2).tdiv 10

theorem Stroke.way_eq {d : Direction} {w h : Int} {start finish : Bridge.Point}
    (hs : Stroke d w h start finish) :
    (d.along start).val - (d.along finish).val = way d (d.along (w, h)) := by
  rw [hs.along_start, hs.along_finish, way]

theorem Stroke.opposite {d : Direction} {w h : Int} {start finish : Bridge.Point}
    (hs : Stroke d w h start finish) : Stroke d.opposite w h finish start where
  across_start := by simpa only [Direction.across_opposite, hs.across_finish] using hs.across_start
  across_finish := by simpa only [Direction.across_opposite] using hs.across_finish.symm
  along_start := by simpa using hs.along_finish
  along_finish := by simpa using hs.along_start

section

variable {d : Direction} {w h : Int} (hw : Coordinate.InRange w)
  (hh : Coordinate.InRange h)

include hw hh

theorem strokesIn?_of_inRange (hs : Coordinate.InRange (d.along (w, h) * d.tenths.1))
    (hf : Coordinate.InRange (d.along (w, h) * d.tenths.2)) :
    ∃ start finish, strokesIn? d w h = some (start, finish) ∧
      Stroke d w h start finish := by
  have ha : Coordinate.InRange (d.across (w, h)) := by cases d <;> assumption
  obtain ⟨middle, hm, hmv⟩ := exists_middle ha
  obtain ⟨start, hs, hsv⟩ := part?_of_inRange hs
  obtain ⟨finish, hf, hfv⟩ := part?_of_inRange hf
  refine ⟨d.pair middle start, d.pair middle finish, ?_, ?_, ?_, ?_, ?_⟩
  · rw [strokesIn?_eq d hw hh, hm, hs, hf]
    rfl
  · rwa [Direction.across_pair]
  · rw [Direction.across_pair, Direction.across_pair]
  · rwa [Direction.along_pair]
  · rwa [Direction.along_pair]

theorem stroke_of_strokesIn? {start finish : Bridge.Point}
    (h' : strokesIn? d w h = some (start, finish)) : Stroke d w h start finish := by
  have hp := h'
  simp only [strokesIn?_eq d hw hh, Option.bind_eq_bind, Option.bind_eq_some_iff] at hp
  obtain ⟨_, -, a, ha, b, hb, -⟩ := hp
  obtain ⟨start', finish', he, hs⟩ :=
    strokesIn?_of_inRange hw hh (inRange_of_part? ha) (inRange_of_part? hb)
  rw [h'] at he
  obtain ⟨rfl, rfl⟩ := Prod.mk.inj (Option.some.inj he)
  exact hs

theorem strokesIn?_of_le (hl : (d.along (w, h)).natAbs ≤ d.limit) :
    ∃ start finish, strokesIn? d w h = some (start, finish) ∧
      Stroke d w h start finish := by
  have hr (tenths : Int) (ht : tenths ∈ [2, 3, 7, 8]) :
      Coordinate.InRange (d.along (w, h) * tenths) := by
    have hm : d.limit ≤ 115851 := by cases d <;> decide
    obtain rfl | rfl | rfl | rfl : tenths = 2 ∨ tenths = 3 ∨ tenths = 7 ∨ tenths = 8 := by
      simpa using ht
    all_goals exact ⟨by omega, by omega⟩
  exact strokesIn?_of_inRange hw hh (hr _ (by cases d <;> decide)) (hr _ (by cases d <;> decide))

theorem strokesIn?_opposite :
    strokesIn? d.opposite w h = (strokesIn? d w h).map Prod.swap := by
  simp only [strokesIn?_eq _ hw hh, Direction.across_opposite, Direction.along_opposite,
    Direction.tenths_opposite, Direction.pair_opposite, Prod.fst_swap, Prod.snd_swap]
  cases Coordinate.ofInt? ((d.across (w, h)).tdiv 2) with
  | none => rfl
  | some middle =>
    cases part? (d.along (w, h)) d.tenths.1 <;> cases part? (d.along (w, h)) d.tenths.2 <;> rfl

end

theorem sq_inRange_iff (z : Int) : Coordinate.InRange (z * z) ↔ z.natAbs ≤ 46340 := by
  rw [← Int.natAbs_mul_self, Coordinate.InRange]
  constructor
  · rintro ⟨-, h⟩
    by_contra hn
    have hm : 46341 * 46341 ≤ z.natAbs * z.natAbs := Nat.mul_le_mul (by omega) (by omega)
    omega
  · intro h
    have hm : z.natAbs * z.natAbs ≤ 46340 * 46340 := Nat.mul_le_mul h h
    exact ⟨by omega, by omega⟩

def duration (way : Int) : Nat := max 300 (min 1000 (way.natAbs * way.natAbs / 2000))

theorem duration_neg (way : Int) : duration (-way) = duration way := by
  rw [duration, duration, Int.natAbs_neg]

theorem duration_bounds (way : Int) : 300 ≤ duration way ∧ duration way ≤ 1000 := by
  unfold duration
  omega

/-- The square of a way. Both have to be coordinates. -/
def square? (way : Int) : Option Coordinate := do
  let c ← Coordinate.ofInt? way
  Coordinate.ofInt? (c.val * c.val)

theorem square?_of_le {way : Int} (h : way.natAbs ≤ 46340) :
    ∃ c, square? way = some c ∧ c.val = way.natAbs * way.natAbs := by
  have hr : Coordinate.InRange way := ⟨by omega, by omega⟩
  obtain ⟨w, hw, hwv⟩ := Coordinate.ofInt?_of_inRange hr
  obtain ⟨c, hc, hcv⟩ := Coordinate.ofInt?_of_inRange ((sq_inRange_iff way).mpr h)
  refine ⟨c, ?_, by rw [hcv, Int.natAbs_mul_self']⟩
  rw [square?, hw, Option.bind_eq_bind, Option.bind_some, hwv, hc]

theorem square?_of_lt {way : Int} (h : 46340 < way.natAbs) : square? way = none := by
  have hs : ¬ Coordinate.InRange (way * way) := by
    rw [sq_inRange_iff]
    omega
  by_cases hr : Coordinate.InRange way
  · obtain ⟨w, hw, hwv⟩ := Coordinate.ofInt?_of_inRange hr
    rw [square?, hw, Option.bind_eq_bind, Option.bind_some, hwv, Coordinate.ofInt?_eq_none_iff.mpr hs]
  · rw [square?, Coordinate.ofInt?_eq_none_iff.mpr hr]
    rfl

theorem swipeDuration?_eq (start finish : Bridge.Point) :
    swipeDuration? start finish = do
      let dx2 ← square? (start.1.val - finish.1.val)
      let dy2 ← square? (start.2.val - finish.2.val)
      let square ← Coordinate.ofInt? (dx2.val + dy2.val)
      return max 300 (min 1000 (square.val.toNat / 2000)) := by
  simp only [swipeDuration?, square?, Option.bind_eq_bind, Option.bind_assoc]

theorem swipeDuration?_of_way {start finish : Bridge.Point} {way : Int}
    (h : start.1.val - finish.1.val = way ∧ start.2.val - finish.2.val = 0 ∨
      start.1.val - finish.1.val = 0 ∧ start.2.val - finish.2.val = way) :
    swipeDuration? start finish = if way.natAbs ≤ 46340 then some (duration way) else none := by
  have hz : square? 0 = some ⟨0, by decide, by decide⟩ := rfl
  rw [swipeDuration?_eq]
  split
  · rename_i hl
    obtain ⟨c, hc, hcv⟩ := square?_of_le hl
    have hs : Coordinate.ofInt? c.val = some c := dif_pos ⟨c.lower, c.upper⟩
    have hn : c.val.toNat = way.natAbs * way.natAbs := by omega
    obtain ⟨hx, hy⟩ | ⟨hx, hy⟩ := h <;> simp [hx, hy, hc, hz, hs, hn, duration]
  · rename_i hl
    have hc := square?_of_lt (Nat.lt_of_not_le hl)
    obtain ⟨hx, hy⟩ | ⟨hx, hy⟩ := h <;> simp [hx, hy, hc, hz]

/-- A stroke takes a time by the length of its way, the square of which has to be a coordinate. -/
theorem Stroke.swipeDuration?_eq {d : Direction} {w h : Int} {start finish : Bridge.Point}
    (hs : Stroke d w h start finish) :
    swipeDuration? start finish =
      if (d.along (w, h)).natAbs ≤ d.limit then some (duration (way d (d.along (w, h)))) else none := by
  have hw := hs.way_eq
  have ha : (d.across start).val - (d.across finish).val = 0 := by rw [hs.across_finish, Int.sub_self]
  simp only [← natAbs_way_le_iff]
  refine swipeDuration?_of_way ?_
  cases d <;> simp_all [Direction.along, Direction.across]

/-- The number of 32 bits with sign that an extent is taken for. -/
def signed (n : Nat) : Int := Int.bmod n UInt32.size

theorem strokes?_eq (d : Direction) (size : Nat × Nat) :
    strokes? d size = strokesIn? d (signed size.1) (signed size.2) := rfl

theorem signed_inRange (n : Nat) : Coordinate.InRange (signed n) := by
  have hl := Int.le_bmod (x := n) (m := UInt32.size) (by decide)
  have hh := Int.bmod_lt (x := n) (m := UInt32.size) (by decide)
  have hs : (UInt32.size : Int) = 4294967296 := rfl
  simp only [hs] at hl hh
  exact ⟨by unfold signed; omega, by unfold signed; omega⟩

theorem signed_of_lt {n : Nat} (h : n < 2147483648) : signed n = n :=
  Int.bmod_eq_of_le (by change -((4294967296 : Int) / 2) ≤ _; omega)
    (by change _ < ((4294967296 : Int) + 1) / 2; omega)

theorem signed_of_le {n : Nat} (hl : 2147483648 ≤ n) (hn : n < 4294967296) :
    signed n = n - 4294967296 := by
  have hs : (UInt32.size : Int) = 4294967296 := rfl
  have hb := Int.bmod_eq_of_le (n := (n : Int) - UInt32.size) (m := UInt32.size) (by omega) (by omega)
  rw [Int.sub_bmod_right, hs] at hb
  exact hb

theorem along_signed (d : Direction) (size : Nat × Nat) :
    d.along (signed size.1, signed size.2) = signed (d.along size) := d.along_map signed size

theorem across_signed (d : Direction) (size : Nat × Nat) :
    d.across (signed size.1, signed size.2) = signed (d.across size) := d.across_map signed size

/-- Within the limit the stroke can be made, and so can the one the other way, in the same time. -/
theorem exists_stroke {d : Direction} {size : Nat × Nat}
    (h : (signed (d.along size)).natAbs ≤ d.limit) :
    ∃ start finish, Stroke d (signed size.1) (signed size.2) start finish ∧
      strokes? d size = some (start, finish) ∧
      strokes? d.opposite size = some (finish, start) ∧
      swipeDuration? start finish = some (duration (way d (signed (d.along size)))) ∧
      swipeDuration? finish start = some (duration (way d (signed (d.along size)))) := by
  have hw := signed_inRange size.1
  have hh := signed_inRange size.2
  rw [← along_signed] at h ⊢
  obtain ⟨start, finish, hstrokes, hs⟩ := strokesIn?_of_le hw hh h
  refine ⟨start, finish, hs, hstrokes, ?_, ?_, ?_⟩
  · rw [strokes?_eq, strokesIn?_opposite hw hh, hstrokes]
    rfl
  · rw [hs.swipeDuration?_eq, if_pos h]
  · have ho := hs.opposite.swipeDuration?_eq
    rw [Direction.along_opposite, Direction.limit_opposite, if_pos h, way_opposite,
      duration_neg] at ho
    exact ho

theorem swipeDuration?_of_lt {d : Direction} {size : Nat × Nat} {start finish : Bridge.Point}
    (h : d.limit < (signed (d.along size)).natAbs) (hs : strokes? d size = some (start, finish)) :
    swipeDuration? start finish = none := by
  rw [strokes?_eq] at hs
  rw [← along_signed] at h
  have hn := Nat.not_le_of_lt h
  rw [(stroke_of_strokesIn? (signed_inRange _) (signed_inRange _) hs).swipeDuration?_eq, if_neg hn]

def Inside (z : Int) (extent : Nat) : Prop := 0 ≤ z ∧ z < extent

def OnScreen (size : Nat × Nat) (place : Bridge.Point) : Prop :=
  Inside place.1.val size.1 ∧ Inside place.2.val size.2

/-- Extents that are taken for themselves, and the longest one, which is taken for minus one: parts of
these only are on the screen. -/
def Placed (extent : Nat) : Prop := extent < 2147483648 ∨ extent = 4294967295

instance (z : Int) (extent : Nat) : Decidable (Inside z extent) :=
  inferInstanceAs (Decidable (_ ∧ _))

instance (size : Nat × Nat) (place : Bridge.Point) : Decidable (OnScreen size place) :=
  inferInstanceAs (Decidable (_ ∧ _))

instance (extent : Nat) : Decidable (Placed extent) := inferInstanceAs (Decidable (_ ∨ _))

theorem onScreen_iff_along (d : Direction) {size : Nat × Nat} {place : Bridge.Point} :
    OnScreen size place ↔ Inside (d.across place).val (d.across size) ∧
      Inside (d.along place).val (d.along size) := by
  cases d
  · exact Iff.rfl
  · exact Iff.rfl
  · exact and_comm
  · exact and_comm

theorem tdiv_of_neg {z m : Int} (h : z < 0) : z.tdiv m = -(-z / m) := by
  rw [← Int.tdiv_eq_ediv_of_nonneg (by omega : 0 ≤ -z), Int.neg_tdiv, Int.neg_neg]

theorem signed_cases {n : Nat} (h : n < 4294967296) :
    n < 2147483648 ∧ signed n = n ∨ 2147483648 ≤ n ∧ signed n = n - 4294967296 := by
  by_cases hn : n < 2147483648
  · exact .inl ⟨hn, signed_of_lt hn⟩
  · exact .inr ⟨Nat.le_of_not_lt hn, signed_of_le (Nat.le_of_not_lt hn) h⟩

theorem inside_middle_iff {n : Nat} (hn : 1 ≤ n) (h : n < 4294967296) :
    Inside ((signed n).tdiv 2) n ↔ Placed n := by
  unfold Inside Placed
  obtain ⟨hl, hs⟩ | ⟨hl, hs⟩ := signed_cases h
  · rw [hs, Int.tdiv_eq_ediv_of_nonneg (by omega)]
    omega
  · rw [hs, tdiv_of_neg (by omega)]
    omega

theorem inside_tenths_iff (d : Direction) {n : Nat} (hn : 1 ≤ n) (h : n < 4294967296) :
    Inside ((signed n * d.tenths.1).tdiv 10) n ∧ Inside ((signed n * d.tenths.2).tdiv 10) n ↔
      Placed n := by
  unfold Inside Placed
  obtain ⟨hl, hs⟩ | ⟨hl, hs⟩ := signed_cases h
  · cases d <;> simp only [Direction.tenths, hs] <;>
      rw [Int.tdiv_eq_ediv_of_nonneg (by omega), Int.tdiv_eq_ediv_of_nonneg (by omega)] <;> omega
  · cases d <;> simp only [Direction.tenths, hs] <;>
      rw [tdiv_of_neg (by omega), tdiv_of_neg (by omega)] <;> omega

theorem neg_one_le_signed {n : Nat} (h : Placed n) : -1 ≤ signed n := by
  obtain h | rfl := h
  · rw [signed_of_lt h]
    omega
  · rw [signed_of_le (by decide) (by decide)]
    decide

/-- More tenths of an extent do not come before fewer, as long as it is taken for minus one at least. -/
theorem tenths_le {extent : Int} (h : -1 ≤ extent) :
    (extent * 3).tdiv 10 ≤ (extent * 7).tdiv 10 ∧ (extent * 2).tdiv 10 ≤ (extent * 8).tdiv 10 := by
  obtain rfl | h : extent = -1 ∨ 0 ≤ extent := by omega
  · decide
  · have part (tenths : Int) (ht : 0 ≤ tenths) :
        (extent * tenths).tdiv 10 = extent * tenths / 10 :=
      Int.tdiv_eq_ediv_of_nonneg (Int.mul_nonneg h ht)
    rw [part 3 (by decide), part 7 (by decide), part 2 (by decide), part 8 (by decide)]
    omega

namespace Stroke

variable {d : Direction} {size : Nat × Nat} {start finish : Bridge.Point}
  (h : Stroke d (signed size.1) (signed size.2) start finish)

include h

/-- Both ends of a stroke are on the screen exactly if parts of both its extents are. -/
theorem onScreen_iff (hw : 1 ≤ size.1 ∧ size.1 < 4294967296) (hh : 1 ≤ size.2 ∧ size.2 < 4294967296) :
    OnScreen size start ∧ OnScreen size finish ↔ Placed size.1 ∧ Placed size.2 := by
  have hstart := h.across_start
  have hfrom := h.along_start
  have hto := h.along_finish
  rw [across_signed] at hstart
  rw [along_signed] at hfrom hto
  have hacross : 1 ≤ d.across size ∧ d.across size < 4294967296 := by cases d <;> assumption
  have halong : 1 ≤ d.along size ∧ d.along size < 4294967296 := by cases d <;> assumption
  have hplaced : Placed size.1 ∧ Placed size.2 ↔ Placed (d.across size) ∧ Placed (d.along size) := by
    cases d
    · exact Iff.rfl
    · exact Iff.rfl
    · exact and_comm
    · exact and_comm
  rw [hplaced, ← inside_middle_iff hacross.1 hacross.2, ← inside_tenths_iff d halong.1 halong.2,
    onScreen_iff_along d, onScreen_iff_along d, h.across_finish, hstart, hfrom, hto]
  exact and_and_left.symm

theorem against (hp : Placed (d.along size)) : d.Against start finish := by
  have hfrom := h.along_start
  have hto := h.along_finish
  rw [along_signed] at hfrom hto
  have hle := tenths_le (neg_one_le_signed hp)
  cases d <;> simp only [Direction.along, Direction.tenths] at hfrom hto hle <;>
    simp only [Direction.Against, hfrom, hto, hle]

end Stroke

end BridgeSurface

end ScreenAgent
