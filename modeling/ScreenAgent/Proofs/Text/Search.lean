import Mathlib.Data.List.Basic
import Mathlib.Data.List.Infix
import Mathlib.Data.List.TakeDrop
import Mathlib.Data.List.TakeWhile
import ScreenAgent.Text.Search

namespace ScreenAgent.Text

theorem splitFirst_isSome {wanted : List Char} (s : List Char) :
    (splitFirst wanted s).isSome = true ↔ wanted <:+: s := by
  induction s with
  | nil => by_cases h : wanted = [] <;> simp [splitFirst, h]
  | cons c r ih =>
    rw [splitFirst, List.infix_cons_iff, ← ih]
    by_cases h : wanted.isPrefixOf (c :: r) = true
    · simp [h, List.isPrefixOf_iff_prefix.mp h]
    · have hp : ¬ wanted <+: c :: r := fun hp => h (List.isPrefixOf_iff_prefix.mpr hp)
      simp [h, hp]

theorem holds_iff {wanted s : List Char} : holds wanted s = true ↔ wanted <:+: s :=
  splitFirst_isSome s

theorem splitFirst_cut {c : Char} {a : List Char} (h : c ∉ a) (r : List Char) :
    splitFirst [c] (a ++ c :: r) = some (a, r) := by
  induction a with
  | nil => simp [splitFirst]
  | cons d a ih =>
    obtain ⟨hd, ha⟩ := not_or.mp (mt List.mem_cons.mpr h)
    simp [splitFirst, hd, ih ha]

theorem splitFirst_eq_none_iff {c : Char} {s : List Char} : splitFirst [c] s = none ↔ c ∉ s := by
  rw [← Option.not_isSome_iff_eq_none, splitFirst_isSome, List.singleton_infix_iff]

theorem splitFirst_eq_some_iff {c : Char} {s a r : List Char} :
    splitFirst [c] s = some (a, r) ↔ s = a ++ c :: r ∧ c ∉ a := by
  constructor
  · intro h
    have hm : c ∈ s := by
      by_contra hn
      rw [splitFirst_eq_none_iff.mpr hn] at h
      cases h
    obtain ⟨b, t, rfl, hb⟩ := List.eq_append_cons_of_mem hm
    rw [splitFirst_cut hb] at h
    obtain ⟨rfl, rfl⟩ := Prod.mk.inj (Option.some.inj h)
    exact ⟨rfl, hb⟩
  · rintro ⟨rfl, ha⟩
    exact splitFirst_cut ha r

theorem trimEnd_blanks {blanks : List Char} (hb : ∀ c ∈ blanks, isBlank c = true) (s : List Char) :
    trimEnd (s ++ blanks) = trimEnd s := by
  have hr : ∀ c ∈ blanks.reverse, isBlank c = true := fun c hc => hb c (List.mem_reverse.mp hc)
  rw [trimEnd, List.reverse_append, List.dropWhile_append_of_pos hr]
  rfl

theorem trimEnd_concat {c : Char} (hc : isBlank c = false) (s : List Char) :
    trimEnd (s ++ [c]) = s ++ [c] := by
  simp [trimEnd, hc]

/-- A run of characters of a class ends where the next character is of another class. -/
theorem takeWhile_run {p : Char → Bool} {run rest : List Char} (hp : ∀ c ∈ run, p c = true)
    (hr : ∀ c ∈ rest.head?, p c = false) : (run ++ rest).takeWhile p = run := by
  rw [List.takeWhile_append_of_pos hp]
  cases rest with
  | nil => simp
  | cons c rest => simp [hr c rfl]

theorem dropWhile_run {p : Char → Bool} {run rest : List Char} (hp : ∀ c ∈ run, p c = true)
    (hr : ∀ c ∈ rest.head?, p c = false) : (run ++ rest).dropWhile p = rest := by
  rw [List.dropWhile_append_of_pos hp]
  cases rest with
  | nil => rfl
  | cons c rest => simp [hr c rfl]

theorem trimEnd_append_dropped (s : List Char) :
    trimEnd s ++ (s.reverse.takeWhile isBlank).reverse = s := by
  rw [trimEnd, ← List.reverse_append, List.takeWhile_append_dropWhile, List.reverse_reverse]

theorem trim_blanks {before word after : List Char} (hb : ∀ c ∈ before, isBlank c = true)
    (hw : ∀ c ∈ word, isBlank c = false) (ha : ∀ c ∈ after, isBlank c = true) :
    trim (before ++ word ++ after) = word := by
  have hstart : trimEnd (trimStart (before ++ word ++ after)) = trimEnd word := by
    cases word with
    | nil =>
      have hall : ∀ c ∈ before ++ after, isBlank c = true :=
        List.forall_mem_append.mpr ⟨hb, ha⟩
      rw [List.append_nil, trimStart, List.dropWhile_eq_nil_iff.mpr hall]
    | cons c word =>
      have hc : isBlank c = false := hw c List.mem_cons_self
      rw [List.append_assoc, trimStart, dropWhile_run hb (by simpa using hc), trimEnd_blanks ha]
  have hend : word.reverse.dropWhile isBlank = word.reverse := by
    have hnone : ∀ c ∈ ([] : List Char), isBlank c = true := nofun
    refine dropWhile_run hnone fun c hc => hw c ?_
    exact List.mem_reverse.mp (List.mem_of_mem_head? hc)
  rw [trim, hstart, trimEnd, hend, List.reverse_reverse]

theorem exists_trim (s : List Char) : ∃ before after, (∀ c ∈ before, isBlank c = true) ∧
    (∀ c ∈ after, isBlank c = true) ∧ s = before ++ trim s ++ after := by
  refine ⟨s.takeWhile isBlank, ((trimStart s).reverse.takeWhile isBlank).reverse, ?_, ?_, ?_⟩
  · intro c hc
    exact List.mem_takeWhile_imp hc
  · intro c hc
    exact List.mem_takeWhile_imp (List.mem_reverse.mp hc)
  · rw [List.append_assoc, trim, trimEnd_append_dropped, trimStart, List.takeWhile_append_dropWhile]

theorem span_run {p : Char → Bool} {run rest : List Char} (hp : ∀ c ∈ run, p c = true)
    (hr : ∀ c ∈ rest.head?, p c = false) : (run ++ rest).span p = (run, rest) := by
  rw [List.span_eq_takeWhile_dropWhile, takeWhile_run hp hr, dropWhile_run hp hr]

theorem exists_run (p : Char → Bool) (s : List Char) : ∃ run rest, s = run ++ rest ∧
    (∀ c ∈ run, p c = true) ∧ ∀ c ∈ rest.head?, p c = false := by
  refine ⟨s.takeWhile p, s.dropWhile p, List.takeWhile_append_dropWhile.symm, ?_, fun c hc => ?_⟩
  · exact fun c hc => List.mem_takeWhile_imp hc
  · have hnot := List.head?_dropWhile_not p s
    rw [Option.mem_def.mp hc] at hnot
    exact hnot

theorem pieces_whole {cut : Char → Bool} {s : List Char} (hs : ∀ c ∈ s, cut c = false) :
    pieces cut s = [s] := by
  induction s with
  | nil => rfl
  | cons c s ih =>
    have hr := ih fun d hd => hs d (List.mem_cons_of_mem _ hd)
    simp [pieces, hs c List.mem_cons_self, hr]

theorem pieces_ne_nil (cut : Char → Bool) (s : List Char) : pieces cut s ≠ [] := by
  cases s with
  | nil => exact List.cons_ne_nil _ _
  | cons c s =>
    rw [pieces]
    split
    · exact List.cons_ne_nil _ _
    · split <;> exact List.cons_ne_nil _ _

theorem pieces_append {cut : Char → Bool} {c : Char} (hc : cut c = true) (s t : List Char) :
    pieces cut (s ++ c :: t) = pieces cut s ++ pieces cut t := by
  induction s with
  | nil => simp [pieces, hc]
  | cons d s ih =>
    rw [List.cons_append, pieces, pieces, ih]
    split
    · rfl
    · cases hs : pieces cut s with
      | nil => exact absurd hs (pieces_ne_nil cut s)
      | cons p ps => rfl

theorem pieces_cut {cut : Char → Bool} {s : List Char} (hs : ∀ c ∈ s, cut c = false) {c : Char}
    (hc : cut c = true) (r : List Char) : pieces cut (s ++ c :: r) = s :: pieces cut r := by
  rw [pieces_append hc, pieces_whole hs]
  rfl

theorem toLower_of_le {c : Char} (h : 128 ≤ c.toNat) : c.toLower = c := by
  refine dif_neg ?_
  rintro ⟨-, hz⟩
  have hz : c.toNat ≤ 90 := hz
  omega

end ScreenAgent.Text
