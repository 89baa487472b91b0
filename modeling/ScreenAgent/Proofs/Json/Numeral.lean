import ScreenAgent.Json.Reader
import ScreenAgent.Json.Writer
import ScreenAgent.Proofs.Text.Numeral
import ScreenAgent.Proofs.Text.Search

namespace ScreenAgent

namespace Numeral

/-- A numeral as a text may spell it: there are digits, with no zero too many in front, and after
the letter of an exponent there are digits too. -/
structure Proper (n : Numeral) : Prop where
  whole : ∀ c ∈ n.whole, Text.isDigit c = true
  whole_ne : n.whole ≠ []
  leading : n.whole.head? = some '0' → n.whole.length = 1
  fraction : ∀ c ∈ n.fraction, Text.isDigit c = true
  exponent : ∀ e ∈ n.exponent, e.2 ≠ [] ∧ ∀ c ∈ e.2, Text.isDigit c = true

theorem exponent_all (exponent : Option (Bool × List Char)) :
    (exponent.all fun e => !e.2.isEmpty && e.2.all Text.isDigit) = true ↔
      ∀ e ∈ exponent, e.2 ≠ [] ∧ ∀ c ∈ e.2, Text.isDigit c = true := by
  cases exponent with
  | none => simp
  | some e => simp [Option.mem_def]

instance (n : Numeral) : Decidable n.Proper :=
  decidable_of_iff (n.whole.all Text.isDigit = true ∧ n.whole ≠ [] ∧
      (n.whole.head? = some '0' → n.whole.length = 1) ∧ n.fraction.all Text.isDigit = true ∧
      n.exponent.all (fun e => !e.2.isEmpty && e.2.all Text.isDigit) = true)
    ⟨fun ⟨hw, hn, hl, hf, he⟩ =>
        ⟨List.all_eq_true.mp hw, hn, hl, List.all_eq_true.mp hf, (exponent_all _).mp he⟩,
      fun h => ⟨List.all_eq_true.mpr h.whole, h.whole_ne, h.leading, List.all_eq_true.mpr h.fraction,
        (exponent_all _).mpr h.exponent⟩⟩

theorem Proper.of_natural (negative : Bool) (n : Nat) :
    Proper ⟨negative, Text.ofNat n, [], none⟩ where
  whole := Text.isDigit_ofNat n
  whole_ne := Text.ofNat_ne_nil n
  leading h := by
    rw [Text.eq_zero_of_head?_ofNat h]
    rfl
  fraction := by simp
  exponent := by simp

theorem proper_ofNat (n : Nat) : (ofNat n).Proper := .of_natural false n

theorem proper_ofInt (z : Int) : (ofInt z).Proper := .of_natural _ z.natAbs

theorem toInt?_ofNat (n : Nat) : (ofNat n).toInt? = some (n : Int) := by
  have hd : Text.decimal? (Text.ofNat n) = some n := Text.decimal?_ofNat 0 n
  simp [toInt?, ofNat, hd]

theorem toInt?_ofInt (z : Int) : (ofInt z).toInt? = some z := by
  have hd : Text.decimal? (Text.ofNat z.natAbs) = some z.natAbs := Text.decimal?_ofNat 0 z.natAbs
  by_cases hz : z < 0
  · have ha : z.natAbs ≠ 0 := by omega
    have hs : -(z.natAbs : Int) = z := by omega
    simp only [toInt?, ofInt, hd, hz, ha, hs, Option.bind_some, Option.isSome_none]
    simp
  · have hs : (z.natAbs : Int) = z := by omega
    simp only [toInt?, ofInt, hd, hz, hs, Option.bind_some, Option.isSome_none]
    simp

end Numeral

namespace Json

/-- Where a number can end: what comes next does not go on with it. -/
def EndsNumeral (rest : List Char) : Prop :=
  ∀ c ∈ rest.head?, Text.isDigit c = false ∧ c ≠ '.' ∧ c ≠ 'e' ∧ c ≠ 'E'

/-- The part of a number from its point on, up to its exponent. -/
def fractionText (digits : List Char) : List Char := if digits = [] then [] else '.' :: digits

/-- The part of a number from the letter of its exponent on. -/
def exponentText : Option (Bool × List Char) → List Char
  | none => []
  | some (down, digits) => 'e' :: (if down then '-' else '+') :: digits

theorem numeral_eq (n : Numeral) : numeral n =
    (if n.negative then ['-'] else []) ++
      (n.whole ++ (fractionText n.fraction ++ exponentText n.exponent)) := by
  obtain ⟨negative, whole, fraction, exponent⟩ := n
  rcases exponent with _ | ⟨down, digits⟩ <;> simp [numeral, fractionText, exponentText]

theorem exponent?_text {e : Option (Bool × List Char)} {rest : List Char}
    (he : ∀ p ∈ e, p.2 ≠ [] ∧ ∀ c ∈ p.2, Text.isDigit c = true) (hr : EndsNumeral rest) :
    exponent? (exponentText e ++ rest) = some (e, rest) := by
  rcases e with _ | ⟨down, digits⟩
  · cases rest with
    | nil => rfl
    | cons c rest =>
      obtain ⟨-, -, hl, hu⟩ := hr c rfl
      simp [exponentText, exponent?, hl, hu]
  · obtain ⟨hn, hd⟩ := he _ rfl
    have hs : (digits ++ rest).span Text.isDigit = (digits, rest) :=
      Text.span_run hd fun c hc => (hr c hc).1
    have hx : exponentDigits? down (digits ++ rest) = some (some (down, digits), rest) := by
      rw [exponentDigits?, hs]
      split
      · simp_all
      · simp_all
    cases down <;> simpa [exponentText, exponent?] using hx

theorem fraction?_text {digits rest : List Char} (hd : ∀ c ∈ digits, Text.isDigit c = true)
    (hr : ∀ c ∈ rest.head?, Text.isDigit c = false ∧ c ≠ '.') :
    fraction? (fractionText digits ++ rest) = some (digits, rest) := by
  have hs : (digits ++ rest).span Text.isDigit = (digits, rest) :=
    Text.span_run hd fun c hc => (hr c hc).1
  by_cases hn : digits = []
  · rw [fractionText, if_pos hn, hn, List.nil_append, fraction?]
    · rintro r rfl
      exact (hr '.' rfl).2 rfl
  · rw [fractionText, if_neg hn, List.cons_append, fraction?, hs]
    split
    · simp_all
    · simp_all

theorem sign_text (negative : Bool) {whole : List Char}
    (hw : ∀ c ∈ whole, Text.isDigit c = true) (hn : whole ≠ []) (rest : List Char) :
    let s := (if negative then ['-'] else []) ++ (whole ++ rest)
    (s.head? == some '-') = negative ∧ (if negative then s.tail else s) = whole ++ rest := by
  cases negative with
  | true => simp
  | false =>
    obtain ⟨c, ds, rfl⟩ := List.exists_cons_of_ne_nil hn
    have hc : c ≠ '-' := by
      rintro rfl
      have hd := hw '-' List.mem_cons_self
      revert hd
      decide
    simp [hc]

theorem numeral?_text {n : Numeral} (hn : n.Proper) {rest : List Char} (hr : EndsNumeral rest) :
    numeral? (numeral n ++ rest) = some (n, rest) := by
  obtain ⟨negative, whole, fraction, exponent⟩ := n
  obtain ⟨hw, hne, hl, hf, he⟩ := hn
  dsimp only at hw hne hl hf he
  -- the fraction and the whole end where they do because what follows begins with no digit
  have htail : ∀ c ∈ (exponentText exponent ++ rest).head?, Text.isDigit c = false ∧ c ≠ '.' := by
    intro c hc
    rcases exponent with _ | ⟨down, digits⟩
    · exact ⟨(hr c hc).1, (hr c hc).2.1⟩
    · cases hc
      decide
  have hstop : ∀ c ∈ (fractionText fraction ++ (exponentText exponent ++ rest)).head?,
      Text.isDigit c = false := by
    intro c hc
    unfold fractionText at hc
    split at hc
    · exact (htail c hc).1
    · cases hc
      decide
  obtain ⟨hs, hd⟩ := sign_text negative hw hne
    (fractionText fraction ++ (exponentText exponent ++ rest))
  have hz : ¬ (whole = [] ∨ (whole.head? = some '0' ∧ whole.length ≠ 1)) := by
    rintro (h | ⟨h, h'⟩)
    · exact hne h
    · exact h' (hl h)
  rw [numeral_eq, List.append_assoc, List.append_assoc, List.append_assoc, numeral?, hs, hd,
    Text.span_run hw hstop]
  simp [hz, fraction?_text hf htail, exponent?_text he hr]

theorem digit_printing {c : Char} (h : Text.isDigit c = true) : 32 ≤ c.toNat := by
  rw [Text.isDigit_eq, Char.isDigit_iff_toNat] at h
  exact Nat.le_trans (by decide) h.1

theorem numeral_printing {n : Numeral} (hn : n.Proper) : ∀ c ∈ numeral n, 32 ≤ c.toNat := by
  obtain ⟨negative, whole, fraction, exponent⟩ := n
  obtain ⟨hw, -, -, hf, he⟩ := hn
  intro c hc
  rw [numeral_eq, List.mem_append, List.mem_append, List.mem_append] at hc
  obtain hc | hc | hc | hc := hc
  · split at hc
    · rw [List.mem_singleton.mp hc]
      decide
    · cases hc
  · exact digit_printing (hw c hc)
  · unfold fractionText at hc
    split at hc
    · cases hc
    · obtain rfl | hc := List.mem_cons.mp hc
      · decide
      · exact digit_printing (hf c hc)
  · rcases exponent with _ | ⟨down, digits⟩
    · cases hc
    · obtain rfl | rfl | hc := by simpa only [exponentText, List.mem_cons] using hc
      · decide
      · cases down <;> decide
      · exact digit_printing ((he _ rfl).2 c hc)

def begins (c : Char) : Bool := c == '-' || Text.isDigit c

theorem numeral_begins {n : Numeral} (hn : n.Proper) :
    ∃ c r, numeral n = c :: r ∧ begins c = true := by
  obtain ⟨c, ds, hw⟩ := List.exists_cons_of_ne_nil hn.whole_ne
  rw [numeral_eq, hw]
  cases n.negative with
  | true => exact ⟨_, _, rfl, rfl⟩
  | false =>
    have hc : Text.isDigit c = true := hn.whole c (by simp [hw])
    exact ⟨_, _, rfl, by simp [begins, hc]⟩

end Json

end ScreenAgent
