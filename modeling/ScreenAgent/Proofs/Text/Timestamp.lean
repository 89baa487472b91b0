import Mathlib.Data.List.TakeWhile
import ScreenAgent.Proofs.Text.Numeral
import ScreenAgent.Proofs.Text.Search
import ScreenAgent.Text.Timestamp

namespace ScreenAgent

namespace Text

theorem isBlank_of_isDigit {c : Char} (h : isDigit c = true) : isBlank c = false := by
  rw [isDigit_eq, Char.isDigit_iff_toNat] at h
  obtain ⟨hl, hh⟩ := h
  change 48 ≤ c.toNat at hl
  change c.toNat ≤ 57 at hh
  simp [isBlank]
  omega

theorem decimal?_zeros {s : List Char} {n : Nat} (h : decimal? s = some n) (zeros : Nat) :
    decimal? (s ++ List.replicate zeros '0') = some (n * 10 ^ zeros) := by
  induction zeros with
  | zero => simpa using h
  | succ zeros ih =>
    rw [List.replicate_succ', ← List.append_assoc]
    generalize s ++ List.replicate zeros '0' = t at ih
    unfold decimal? at ih ⊢
    split at ih
    · cases ih
    · obtain ⟨ds, hd, hs⟩ := Option.map_eq_some_iff.mp ih
      have hz : digit? '0' = some 0 := rfl
      rw [if_neg (by simp), List.mapM_append, hd]
      simp only [spelled] at hs
      simp [hz, spelled, hs, Nat.pow_succ, Nat.mul_assoc]

end Text

theorem Date.daysIn_le (year : Int) (month : Nat) : Date.daysIn year month ≤ 31 := by
  unfold Date.daysIn
  split
  · split <;> decide
  · split <;> decide

namespace Timestamp

theorem trimStart_digits {s : List Char} (hs : ∀ c ∈ s, Text.isDigit c = true) (hn : s ≠ [])
    (rest : List Char) : Text.trimStart (s ++ rest) = s ++ rest := by
  obtain ⟨c, r, rfl⟩ := List.exists_cons_of_ne_nil hn
  have hb := Text.isBlank_of_isDigit (hs c List.mem_cons_self)
  simp [Text.trimStart, hb]

theorem padded_ne_nil (width n : Nat) : Text.padded width n ≠ [] := by
  simp [Text.padded_eq, Text.ofNat_ne_nil]

theorem digits?_padded {width n : Nat} (hw : 0 < width) (hn : n < 10 ^ width) (rest : List Char) :
    digits? width (Text.padded width n ++ rest) = some (n, rest) := by
  have hd := Text.isDigit_padded width n
  have hl := Text.length_padded hw hn
  rw [digits?, trimStart_digits hd (padded_ne_nil width n), List.take_left' hl,
    List.takeWhile_eq_self_iff.mpr hd, Text.decimal?_padded, hl, List.drop_left' hl]
  rfl

theorem mark?_self {c : Char} (hc : Text.isBlank c = false) (r : List Char) :
    mark? c (c :: r) = some r := by
  simp [mark?, Text.trimStart, hc]

theorem signed_padded (width n : Nat) {rest : List Char}
    (hr : ∀ c ∈ rest.head?, Text.isDigit c = false) :
    year?.signed (Text.padded width n ++ rest) = some (n, rest) := by
  rw [year?.signed, Text.takeWhile_run (Text.isDigit_padded width n) hr, Text.decimal?_padded,
    List.drop_left]
  rfl

theorem year?_text (year : Int) {rest : List Char}
    (hr : ∀ c ∈ rest.head?, Text.isDigit c = false) :
    year? (yearText year ++ rest) = some (year, rest) := by
  unfold yearText
  split
  · rename_i h
    have hn : year.toNat < 10 ^ 4 := by omega
    have hd := digits?_padded (by decide) hn rest
    have hne := padded_ne_nil 4 year.toNat
    have ht := trimStart_digits (Text.isDigit_padded 4 year.toNat) hne rest
    obtain ⟨c, r, hc⟩ := List.exists_cons_of_ne_nil hne
    have hs : Text.isDigit c = true := Text.isDigit_padded 4 year.toNat c (by simp [hc])
    have ha : ∀ d, Text.isDigit d = false → c ≠ d := fun d hd he => by simp [← he, hs] at hd
    have hy : (year.toNat : Int) = year := Int.toNat_of_nonneg h.1
    rw [year?, ht]
    rw [hc, List.cons_append] at hd ⊢
    split
    · rename_i he
      exact absurd (List.cons.inj he).1 (ha '-' rfl)
    · rename_i he
      exact absurd (List.cons.inj he).1 (ha '+' rfl)
    · rw [hd, Option.map_some, hy]
  -- a year that does not fit four digits has a sign, and all digits behind it
  · have hs := signed_padded 4 year.natAbs hr
    split
    · have hy : -(year.natAbs : Int) = year := by omega
      rw [List.cons_append, year?]
      change (year?.signed _).map _ = _
      rw [hs, Option.map_some, hy]
    · have hy : (year.natAbs : Int) = year := by omega
      rw [List.cons_append, year?]
      change (year?.signed _).map _ = _
      rw [hs, Option.map_some, hy]

theorem fraction?_text {nano : Nat} (hn : nano < 1000000000) {rest : List Char}
    (hr : ∀ c ∈ rest.head?, Text.isDigit c = false ∧ c ≠ '.') :
    fraction? (fractionText nano ++ rest) = some (nano, rest) := by
  have hp : ∀ width n, 0 < width → width ≤ 9 → n < 10 ^ width →
      fraction? ('.' :: Text.padded width n ++ rest) = some (n * 10 ^ (9 - width), rest) := by
    intro width n hw h9 hn
    have hd := Text.isDigit_padded width n
    have hl := Text.length_padded hw hn
    have ht := Text.takeWhile_run hd fun c hc => (hr c hc).1
    have hz := Text.decimal?_zeros (Text.decimal?_padded width n) (9 - width)
    rw [List.cons_append, fraction?, ht, hl, List.take_of_length_le (by omega), hz,
      Option.bind_some, if_neg (padded_ne_nil width n), List.drop_left' hl]
  -- the digits that are left out at the end are zeros
  unfold fractionText
  split
  · rename_i h0
    rw [h0, List.nil_append, fraction?]
    rintro r rfl
    exact (hr '.' rfl).2 rfl
  split
  · rename_i h6
    rw [hp 3 (nano / 1000000) (by decide) (by decide) (by omega)]
    have hx : nano / 1000000 * 10 ^ (9 - 3) = nano := by omega
    rw [hx]
  split
  · rw [hp 6 (nano / 1000) (by decide) (by decide) (by omega)]
    have hx : nano / 1000 * 10 ^ (9 - 6) = nano := by omega
    rw [hx]
  · rw [hp 9 nano (by decide) (by decide) (by omega)]
    simp

theorem ofLocal?_self (t : Timestamp) :
    ofLocal? t.date t.hour t.minute t.second t.nano 0 = some t := by
  have hm : make? t.date t.hour t.minute t.second t.nano = some t := dif_pos t.valid
  obtain ⟨-, hh, hmin, -, -⟩ := t.valid
  have hn : ¬ ((t.hour : Int) * 60 + t.minute - 0 < 0) := by omega
  have hb : ¬ (1440 ≤ (t.hour : Int) * 60 + t.minute - 0) := by omega
  have hd : (((t.hour : Int) * 60 + t.minute - 0) % 1440).toNat / 60 = t.hour := by omega
  have hr : (((t.hour : Int) * 60 + t.minute - 0) % 1440).toNat % 60 = t.minute := by omega
  simp only [ofLocal?, hm, Option.bind_eq_bind, Option.bind_some, if_neg hn, if_neg hb, hd, hr]

theorem ofText?_toText (t : Timestamp) : ofText? t.toText = some t := by
  have hs := ofLocal?_self t
  obtain ⟨date, hour, minute, second, nano, valid⟩ := t
  obtain ⟨year, month, day⟩ := date
  dsimp only at hs
  obtain ⟨hdate, hhour, hmin, hsec, hnano⟩ := id valid
  obtain ⟨hm, hd⟩ : month < 10 ^ 2 ∧ day < 10 ^ 2 := by
    simp only [Date.isValid, Bool.and_eq_true, decide_eq_true_eq] at hdate
    have hdays := Date.daysIn_le year month
    omega
  have digit (n : Nat) (h : n < 10 ^ 2) (rest : List Char) := digits?_padded (by decide) h rest
  have hf : fraction? (fractionText nano ++ ['Z']) = some (nano, ['Z']) :=
    fraction?_text hnano (by simp; decide)
  have ht : toText ⟨⟨year, month, day⟩, hour, minute, second, nano, valid⟩ =
      yearText year ++ '-' :: (Text.padded 2 month ++ '-' :: (Text.padded 2 day ++
        'T' :: (Text.padded 2 hour ++ ':' :: (Text.padded 2 minute ++
          ':' :: (Text.padded 2 second ++ (fractionText nano ++ ['Z'])))))) := by
    simp only [toText, List.append_assoc, List.cons_append]
  rw [ht]
  -- one part after the other, so that nothing is unfolded in what is not yet reached
  refine Option.bind_eq_some_iff.mpr ⟨_, year?_text year (by simp; decide), ?_⟩
  refine Option.bind_eq_some_iff.mpr ⟨_, mark?_self rfl _, ?_⟩
  refine Option.bind_eq_some_iff.mpr ⟨_, digit month hm _, ?_⟩
  refine Option.bind_eq_some_iff.mpr ⟨_, mark?_self rfl _, ?_⟩
  refine Option.bind_eq_some_iff.mpr ⟨_, digit day hd _, ?_⟩
  refine Option.bind_eq_some_iff.mpr ⟨_, rfl, ?_⟩
  refine Option.bind_eq_some_iff.mpr ⟨_, digit hour (by omega) _, ?_⟩
  refine Option.bind_eq_some_iff.mpr ⟨_, mark?_self rfl _, ?_⟩
  refine Option.bind_eq_some_iff.mpr ⟨_, digit minute (by omega) _, ?_⟩
  refine Option.bind_eq_some_iff.mpr ⟨_, mark?_self rfl _, ?_⟩
  refine Option.bind_eq_some_iff.mpr ⟨_, digit second (by omega) _, ?_⟩
  refine Option.bind_eq_some_iff.mpr ⟨_, hf, ?_⟩
  refine Option.bind_eq_some_iff.mpr ⟨_, rfl, ?_⟩
  exact hs

end Timestamp

end ScreenAgent
