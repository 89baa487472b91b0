import ScreenAgent.Screen.Bounds

namespace ScreenAgent

namespace Coordinate

def InRange (z : Int) : Prop := -2147483648 ≤ z ∧ z ≤ 2147483647

instance (z : Int) : Decidable (InRange z) := inferInstanceAs (Decidable (_ ∧ _))

theorem ofInt?_of_inRange {z : Int} (h : InRange z) : ∃ c, ofInt? z = some c ∧ c.val = z :=
  ⟨⟨z, h.1, h.2⟩, dif_pos h, rfl⟩

theorem ofInt?_eq_none_iff {z : Int} : ofInt? z = none ↔ ¬ InRange z := by
  constructor
  · intro h hz
    obtain ⟨c, hc, -⟩ := ofInt?_of_inRange hz
    rw [h] at hc
    cases hc
  · exact fun h => dif_neg h

end Coordinate

namespace Bounds

/-- The width is a coordinate, and so is the height where it is looked at. -/
def Measurable (b : Bounds) : Prop :=
  Coordinate.InRange (b.right.val - b.left.val) ∧
    (b.left.val < b.right.val → Coordinate.InRange (b.bottom.val - b.top.val))

def HasArea (b : Bounds) : Prop := b.left.val < b.right.val ∧ b.top.val < b.bottom.val

instance (b : Bounds) : Decidable b.Measurable := inferInstanceAs (Decidable (_ ∧ _))

instance (b : Bounds) : Decidable b.HasArea := inferInstanceAs (Decidable (_ ∧ _))

theorem isEmpty?_of_measurable {b : Bounds} (h : b.Measurable) :
    b.isEmpty? = some (!decide b.HasArea) := by
  obtain ⟨hw, hh⟩ := h
  obtain ⟨w, hw, hwv⟩ := Coordinate.ofInt?_of_inRange hw
  rw [isEmpty?, width?, hw, Option.bind_eq_bind, Option.bind_some, hwv]
  by_cases hl : b.left.val < b.right.val
  · obtain ⟨v, hv, hvv⟩ := Coordinate.ofInt?_of_inRange (hh hl)
    have hn : ¬ b.right.val - b.left.val ≤ 0 := by omega
    have ht : b.bottom.val - b.top.val ≤ 0 ↔ ¬ b.top.val < b.bottom.val := by omega
    rw [if_neg hn, height?, hv]
    simp only [HasArea, hl, hvv, ht, Option.bind_some, true_and, decide_not]
    rfl
  · have hp : b.right.val - b.left.val ≤ 0 := by omega
    simp [HasArea, hl, hp]

theorem isEmpty?_eq_none_iff {b : Bounds} : b.isEmpty? = none ↔ ¬ b.Measurable := by
  constructor
  · intro h hm
    rw [isEmpty?_of_measurable hm] at h
    cases h
  · intro h
    by_cases hw : Coordinate.InRange (b.right.val - b.left.val)
    · obtain ⟨hl, hh⟩ : b.left.val < b.right.val ∧
          ¬ Coordinate.InRange (b.bottom.val - b.top.val) := by
        simpa [Measurable, hw] using h
      obtain ⟨w, hw, hwv⟩ := Coordinate.ofInt?_of_inRange hw
      have hn : ¬ b.right.val - b.left.val ≤ 0 := by omega
      rw [isEmpty?, width?, hw, Option.bind_eq_bind, Option.bind_some, hwv, if_neg hn, height?,
        Coordinate.ofInt?_eq_none_iff.mpr hh]
      rfl
    · rw [isEmpty?, width?, Coordinate.ofInt?_eq_none_iff.mpr hw]
      rfl

theorem center?_inside {b : Bounds} (hm : b.Measurable) (ha : b.HasArea) :
    ∃ x y : Coordinate, b.center? = some (x, y) ∧ b.left.val ≤ x.val ∧ x.val < b.right.val ∧
      b.top.val ≤ y.val ∧ y.val < b.bottom.val := by
  obtain ⟨hl, ht⟩ := ha
  obtain ⟨w, hw, hwv⟩ := Coordinate.ofInt?_of_inRange hm.1
  obtain ⟨v, hv, hvv⟩ := Coordinate.ofInt?_of_inRange (hm.2 hl)
  have half {d : Int} (hd : 0 < d) : 0 ≤ d.tdiv 2 ∧ d.tdiv 2 < d := by
    rw [Int.tdiv_eq_ediv_of_nonneg (Int.le_of_lt hd)]
    omega
  have hx := half (d := w.val) (by omega)
  have hy := half (d := v.val) (by omega)
  have hxr : Coordinate.InRange (b.left.val + w.val.tdiv 2) :=
    ⟨by have := b.left.lower; omega, by have := b.right.upper; omega⟩
  have hyr : Coordinate.InRange (b.top.val + v.val.tdiv 2) :=
    ⟨by have := b.top.lower; omega, by have := b.bottom.upper; omega⟩
  obtain ⟨x, hxc, hxv⟩ := Coordinate.ofInt?_of_inRange hxr
  obtain ⟨y, hyc, hyv⟩ := Coordinate.ofInt?_of_inRange hyr
  refine ⟨x, y, ?_, by omega, by omega, by omega, by omega⟩
  rw [center?, width?, hw, height?, hv]
  simp [hxc, hyc]

end Bounds

end ScreenAgent
