import ScreenAgent.Text.Blank
import ScreenAgent.Unicode.Word

namespace ScreenAgent.Unicode

namespace Ranges

theorem contains_iff {r : Ranges} {n : Nat} :
    r.contains n = true ↔ ∃ p ∈ r, p.1 ≤ n ∧ n ≤ p.2 := by
  simp [contains]

theorem contains_cons {p : Nat × Nat} {r : Ranges} {n : Nat} :
    contains (p :: r) n = true ↔ (p.1 ≤ n ∧ n ≤ p.2) ∨ r.contains n = true := by
  simp [contains]

theorem contains_of_absorb {p : Nat × Nat} {r : Ranges} {n : Nat}
    (h : (absorb p r).contains n = true) : contains (p :: r) n = true := by
  induction r generalizing p with
  | nil => exact h
  | cons q r ih =>
    rw [absorb] at h
    rw [contains_cons, contains_cons]
    split at h
    · -- The joined range ends where the later of the two ends, and there is no gap between them.
      rename_i hq
      obtain hp | hr := contains_cons.mp (ih h)
      · dsimp only at hp
        omega
      · exact .inr (.inr hr)
    · obtain hp | hr := contains_cons.mp h
      · exact .inl hp
      · exact .inr (contains_cons.mp (ih hr))

theorem contains_of_merge {r : Ranges} {n : Nat} (h : (merge r).contains n = true) :
    r.contains n = true := by
  cases r with
  | nil => exact h
  | cons p r => exact contains_of_absorb h

theorem contains_of_ofList {r : Ranges} {n : Nat} (h : (ofList r).contains n = true) :
    r.contains n = true := by
  obtain ⟨p, hp, hn⟩ := contains_iff.mp (contains_of_merge h)
  exact contains_iff.mpr ⟨p, (List.mem_filter.mp (List.mem_mergeSort.mp hp)).1, hn⟩

theorem contains_of_union {a b : Ranges} {n : Nat} (h : (union a b).contains n = true) :
    a.contains n = true ∨ b.contains n = true := by
  obtain ⟨p, hp, hn⟩ := contains_iff.mp (contains_of_ofList h)
  obtain hp | hp := List.mem_append.mp hp
  · exact .inl (contains_iff.mpr ⟨p, hp, hn⟩)
  · exact .inr (contains_iff.mpr ⟨p, hp, hn⟩)

theorem contains_of_unionOf {table : List Ranges.Entry} {names : List String} {n : Nat}
    (h : (unionOf table names).contains n = true) :
    ∃ name ∈ names, ∃ r, named? table name = some r ∧ r.contains n = true := by
  obtain ⟨p, hp, hn⟩ := contains_iff.mp (contains_of_ofList h)
  obtain ⟨name, hname, hp⟩ := List.mem_flatMap.mp hp
  cases hr : named? table name with
  | none => simp [hr] at hp
  | some r => exact ⟨name, hname, r, hr, contains_iff.mpr ⟨p, by simpa [hr] using hp, hn⟩⟩

def Apart (a b : Ranges) : Prop := ∀ p ∈ a, ∀ q ∈ b, p.2 < q.1 ∨ q.2 < p.1

instance (a b : Ranges) : Decidable (Apart a b) := by
  unfold Apart
  infer_instance

theorem Apart.not_contains {a b : Ranges} (h : Apart a b) {n : Nat} (hb : b.contains n = true) :
    ¬ a.contains n = true := by
  intro ha
  obtain ⟨p, hp, hpn⟩ := contains_iff.mp ha
  obtain ⟨q, hq, hqn⟩ := contains_iff.mp hb
  have hpq := h p hp q hq
  omega

theorem ofText_ofList (parts : List (List Char)) :
    ofText (parts.map String.ofList) = ofGaps 0 (numbers 0 1 parts.flatten) := by
  simp [ofText, List.flatMap, Function.comp_def]

end Ranges

open Ranges

def blankRanges : Ranges :=
  [(0x85, 0x85), (0xA0, 0xA0), (0x1680, 0x1680), (0x2000, 0x200A), (0x2028, 0x2029),
    (0x202F, 0x202F), (0x205F, 0x205F), (0x3000, 0x3000)]

/-- The letters are given in parts, as in the table, since a text is slow to take apart. -/
theorem apart_of_named (table : List Ranges.Entry) (name : String) (parts : List (List Char))
    (ht : named? table name = some (ofText (parts.map String.ofList)))
    (ha : Apart (ofGaps 0 (numbers 0 1 parts.flatten)) blankRanges) :
    ∀ r, named? table name = some r → Apart r blankRanges := by
  rintro r hr
  rw [hr] at ht
  obtain rfl := Option.some.inj ht
  rwa [ofText_ofList]

theorem properties_apart :
    ∀ name ∈ ["alphabetic", "joincontrol"], ∀ r, named? propertyTable name = some r →
      Apart r blankRanges := by
  have ha := apart_of_named propertyTable "alphabetic"
    [_, _, _, _, _, _, _, _, _, _, _, _, _, _, _, _, _, _, _, _, _] rfl (by decide +kernel)
  have hj := apart_of_named propertyTable "joincontrol" [_] rfl (by decide +kernel)
  simpa using ⟨ha, hj⟩

theorem categories_apart :
    ∀ name ∈ ["mn", "mc", "me", "nd", "pc"], ∀ r, named? categoryTable name = some r →
      Apart r blankRanges := by
  have hmn := apart_of_named categoryTable "mn" [_, _, _, _, _, _, _, _, _, _] rfl
    (by decide +kernel)
  have hmc := apart_of_named categoryTable "mc" [_, _, _, _, _, _] rfl (by decide +kernel)
  have hme := apart_of_named categoryTable "me" [_] rfl (by decide +kernel)
  have hnd := apart_of_named categoryTable "nd" [_, _, _] rfl (by decide +kernel)
  have hpc := apart_of_named categoryTable "pc" [_] rfl (by decide +kernel)
  simpa using ⟨hmn, hmc, hme, hnd, hpc⟩

theorem wordRanges_blank {n : Nat} (h : blankRanges.contains n = true) :
    wordRanges.contains n = false := by
  rw [← Bool.not_eq_true]
  intro hw
  obtain hw | hw := contains_of_union hw
  · obtain ⟨name, hname, r, hr, hn⟩ := contains_of_unionOf hw
    exact (properties_apart name hname r hr).not_contains h hn
  · obtain ⟨name, hname, r, hr, hn⟩ := contains_of_unionOf hw
    exact (categories_apart name hname r hr).not_contains h hn

theorem isWord_of_isBlank {c : Char} (h : Text.isBlank c = true) : isWord c = false := by
  simp only [Text.isBlank, Bool.or_eq_true, Bool.and_eq_true, decide_eq_true_eq, beq_iff_eq] at h
  rw [isWord]
  split
  · rw [← Bool.not_eq_true, contains_iff]
    rintro ⟨p, hp, hn⟩
    simp only [asciiWordRanges, List.mem_cons, List.not_mem_nil, or_false] at hp
    rcases hp with rfl | rfl | rfl | rfl <;> dsimp only at hn <;> omega
  · refine wordRanges_blank (contains_iff.mpr ?_)
    simp [blankRanges]
    omega

end ScreenAgent.Unicode
