import Mathlib.Data.List.TakeWhile
import ScreenAgent.Hierarchy.Reference
import ScreenAgent.Proofs.Text.Numeral

namespace ScreenAgent.Hierarchy

/-- What stands between the ampersand and the semicolon of a reference to a character: one of five
names, or the number of the character in decimal or hexadecimal digits, with zeros in front. -/
inductive Refers (c : Char) : List Char → Prop
  | name {name : String}
      (h : (name, c) ∈ [("amp", '&'), ("lt", '<'), ("gt", '>'), ("quot", '"'), ("apos", '\'')]) :
      Refers c name.toList
  | decimal (zeros : Nat) : Refers c ('#' :: (List.replicate zeros '0' ++ Text.ofNat c.toNat))
  | hexadecimal {digits : List Char} {zeros : Nat}
      (h : digits.map Char.toLower = List.replicate zeros '0' ++ Text.hexOfNat c.toNat) :
      Refers c ('#' :: 'x' :: digits)

/-- The texts that a value can be written as between quotes of some kind. -/
inductive Spelling (quote : Char) : (value text : List Char) → Prop
  | nil : Spelling quote [] []
  | raw {c : Char} {v s : List Char} (hq : c ≠ quote) (ha : c ≠ '&') (h : Spelling quote v s) :
      Spelling quote (c :: v) (c :: s)
  | reference {c : Char} {r v s : List Char} (hr : Refers c r) (h : Spelling quote v s) :
      Spelling quote (c :: v) ('&' :: (r ++ ';' :: s))

theorem scalar?_toNat (c : Char) : scalar? c.toNat = some c := by
  have hv : c.toNat.isValidChar := c.valid
  rw [scalar?, if_pos hv, Char.ofNat_toNat]

theorem named?_decimal {digits : List Char} (h : digits.head? ≠ some 'x') :
    named? ('#' :: digits) = (Text.decimal? digits).bind scalar? := by
  simp only [named?]
  split <;> simp_all

namespace Refers

variable {c : Char} {r : List Char}

theorem isDigit_of_mem {zeros n : Nat} {d : Char}
    (h : d ∈ List.replicate zeros '0' ++ Text.ofNat n) : d.isDigit = true := by
  obtain h | h := List.mem_append.mp h
  · rw [List.eq_of_mem_replicate h]
    rfl
  · exact Text.isDigit_of_mem_ofNat h

theorem named?_eq (h : Refers c r) : named? r = some c := by
  cases h with
  | name h =>
    simp only [List.mem_cons, Prod.mk.injEq, List.not_mem_nil, or_false] at h
    obtain ⟨rfl, rfl⟩ | ⟨rfl, rfl⟩ | ⟨rfl, rfl⟩ | ⟨rfl, rfl⟩ | ⟨rfl, rfl⟩ := h <;> rfl
  | decimal zeros =>
    have hx : (List.replicate zeros '0' ++ Text.ofNat c.toNat).head? ≠ some 'x' := by
      intro hx
      have hd := isDigit_of_mem (List.mem_of_mem_head? hx)
      revert hd
      decide
    rw [named?_decimal hx, Text.decimal?_ofNat]
    exact scalar?_toNat c
  | hexadecimal h =>
    rw [named?, Text.hexadecimal?_eq h]
    exact scalar?_toNat c

/-- A reference holds neither quotes nor another ampersand or semicolon. -/
theorem not_mem (h : Refers c r) {d : Char} (hd : d ∈ ['"', '\'', '&', ';']) : d ∉ r := by
  simp only [List.mem_cons, List.not_mem_nil, or_false] at hd
  obtain ⟨hd10, hd16, hs, hx⟩ : d.isDigit = false ∧ Text.hexDigit? d = none ∧
      d ≠ '#' ∧ d ≠ 'x' := by
    rcases hd with rfl | rfl | rfl | rfl <;> decide
  cases h with
  | name h =>
    have ha : ∀ p ∈ [("amp", '&'), ("lt", '<'), ("gt", '>'), ("quot", '"'), ("apos", '\'')],
        d ∉ p.1.toList := by
      rcases hd with rfl | rfl | rfl | rfl <;> decide
    exact ha _ h
  | decimal zeros =>
    rw [List.mem_cons, not_or]
    refine ⟨hs, fun hm => ?_⟩
    rw [isDigit_of_mem hm] at hd10
    cases hd10
  | hexadecimal h =>
    rw [List.mem_cons, List.mem_cons, not_or, not_or]
    refine ⟨hs, hx, fun hm => ?_⟩
    have hi := Text.isSome_of_hexadecimal? (Text.hexadecimal?_eq h) d hm
    rw [hd16] at hi
    cases hi

end Refers

theorem unescapeFrom_eq (skip : Nat) (s : List Char) :
    unescapeFrom skip s = unescape (s.drop skip) := by
  induction s generalizing skip with
  | nil => cases skip <;> rfl
  | cons c r ih =>
    cases skip with
    | zero => rfl
    | succ skip => simpa [unescapeFrom] using ih skip

theorem unescape_cons {c : Char} (hc : c ≠ '&') (s : List Char) :
    unescape (c :: s) = c :: unescape s := by
  rw [unescape, unescapeFrom, if_neg hc]
  rfl

theorem reference?_eq {c : Char} {r : List Char} (h : Refers c r) (s : List Char) :
    reference? (r ++ ';' :: s) = some (c, r.length + 1) := by
  have ht : (r ++ ';' :: s).takeWhile (· != ';') = r := by
    rw [List.takeWhile_append_of_pos]
    · simp
    · intro d hd
      have hn := h.not_mem (d := ';') (by decide)
      simpa using ne_of_mem_of_not_mem hd hn
  rw [reference?]
  simp [ht, h.named?_eq]

theorem unescape_reference {c : Char} {r : List Char} (h : Refers c r) (s : List Char) :
    unescape ('&' :: (r ++ ';' :: s)) = c :: unescape s := by
  have hd : (r ++ ';' :: s).drop (r.length + 1) = s := by simp
  rw [unescape, unescapeFrom, if_pos rfl, reference?_eq h]
  simp only [unescapeFrom_eq, hd]

namespace Spelling

variable {quote : Char} {v s : List Char}

theorem of_raw (h : quote ∉ v ∧ '&' ∉ v) : Spelling quote v v := by
  induction v with
  | nil => exact .nil
  | cons c v ih =>
    simp only [List.mem_cons, not_or] at h
    exact .raw (Ne.symm h.1.1) (Ne.symm h.2.1) (ih ⟨h.1.2, h.2.2⟩)

theorem append {w t : List Char} (ha : Spelling quote v s) (hb : Spelling quote w t) :
    Spelling quote (v ++ w) (s ++ t) := by
  induction ha with
  | nil => exact hb
  | raw hq ha _ ih => exact .raw hq ha ih
  | reference hr _ ih => simpa using Spelling.reference hr ih

theorem unescape_eq (h : Spelling quote v s) : unescape s = v := by
  induction h with
  | nil => rfl
  | raw hq ha h ih => rw [unescape_cons ha, ih]
  | reference hr h ih => rw [unescape_reference hr, ih]

/-- What is written between quotes does not end them. -/
theorem quote_not_mem (h : Spelling quote v s) (hq : quote ∈ ['"', '\'']) : quote ∉ s := by
  obtain ⟨hand, hsemi, hmem⟩ : quote ≠ '&' ∧ quote ≠ ';' ∧ quote ∈ ['"', '\'', '&', ';'] := by
    simp only [List.mem_cons, List.not_mem_nil, or_false] at hq
    rcases hq with rfl | rfl <;> decide
  induction h with
  | nil => exact List.not_mem_nil
  | raw hc _ _ ih =>
    rw [List.mem_cons, not_or]
    exact ⟨Ne.symm hc, ih⟩
  | reference hr _ ih =>
    rw [List.mem_cons, List.mem_append, List.mem_cons, not_or, not_or, not_or]
    exact ⟨hand, hr.not_mem hmem, hsemi, ih⟩

end Spelling

end ScreenAgent.Hierarchy
