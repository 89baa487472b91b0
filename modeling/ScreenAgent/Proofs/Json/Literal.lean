import ScreenAgent.Json.Reader
import ScreenAgent.Json.Writer
import ScreenAgent.Proofs.Text.Numeral

namespace ScreenAgent.Json

theorem escapedChar_cases (c : Char) :
    (∃ d, escapedChar c = ['\\', d] ∧ d ≠ 'u' ∧ escape? d = some c) ∨
    (c.toNat < 32 ∧ escapedChar c =
      ['\\', 'u', '0', '0', (c.toNat / 16).digitChar, (c.toNat % 16).digitChar]) ∨
    (escapedChar c = [c] ∧ c ≠ '"' ∧ c ≠ '\\' ∧ 32 ≤ c.toNat) := by
  unfold escapedChar
  split
  · exact .inl ⟨'"', rfl, by decide, rfl⟩
  · exact .inl ⟨'\\', rfl, by decide, rfl⟩
  · exact .inl ⟨'b', rfl, by decide, rfl⟩
  · exact .inl ⟨'f', rfl, by decide, rfl⟩
  · exact .inl ⟨'n', rfl, by decide, rfl⟩
  · exact .inl ⟨'r', rfl, by decide, rfl⟩
  · exact .inl ⟨'t', rfl, by decide, rfl⟩
  · rename_i hq hb _ _ _ _ _
    by_cases hc : c.toNat < 32
    · have hp : ∀ n < 32, (Text.hexOfNat n).leftpad 4 '0' =
          ['0', '0', (n / 16).digitChar, (n % 16).digitChar] := by decide
      rw [if_pos hc, hp _ hc]
      exact .inr (.inl ⟨hc, rfl⟩)
    · rw [if_neg hc]
      exact .inr (.inr ⟨rfl, hq, hb, Nat.le_of_not_lt hc⟩)

theorem literalBody_plain {c : Char} (hq : c ≠ '"') (hb : c ≠ '\\') (hc : 32 ≤ c.toNat)
    (r : List Char) : literalBody (c :: r) = (literalBody r).map fun p => (c :: p.1, p.2) := by
  have hn : ¬ c.toNat < 32 := by omega
  rw [literalBody, if_neg hn]
  · exact hq
  · intro _ _ h
    exact absurd h hb

theorem literalPieces_plain {c : Char} (hb : c ≠ '\\') (r : List Char) :
    literalPieces (c :: r) = (literalPieces r).map (.char c :: ·) := by
  rw [literalPieces]
  · cases literalPieces r <;> rfl
  · intro _ _ _ _ _ h
    exact absurd h hb
  · intro _ _ h
    exact absurd h hb
  · intro h
    exact absurd h hb

theorem literalPieces_escape {d e : Char} (hu : d ≠ 'u') (he : escape? d = some e) (r : List Char) :
    literalPieces ('\\' :: d :: r) = (literalPieces r).map (.char e :: ·) := by
  rw [literalPieces, he]
  · cases literalPieces r <;> rfl
  · intro _ _ _ _ _ h
    exact absurd h hu

theorem joinPieces_unit {c : Char} (hh : isHigh c.toNat = false) (hl : isLow c.toNat = false)
    (ps : List Piece) : joinPieces (.unit c.toNat :: ps) = (joinPieces ps).map (c :: ·) := by
  rw [joinPieces.eq_def]
  split
  · rename_i he
    cases he
  · rename_i he
    cases he
  · rename_i he
    cases he
    simp [hh, hl]
  · rename_i he
    cases he
    simp [hh, hl]

theorem digitChar_plain {n : Nat} (hn : n < 16) :
    n.digitChar ≠ '"' ∧ n.digitChar ≠ '\\' ∧ 32 ≤ n.digitChar.toNat := by
  revert n
  decide

-- A backslash takes the next character along, so an escaped quote does not end the body.
theorem literalBody_escapedChar (c : Char) (r : List Char) :
    literalBody (escapedChar c ++ r) =
      (literalBody r).map fun p => (escapedChar c ++ p.1, p.2) := by
  obtain ⟨d, he, -, -⟩ | ⟨hc, he⟩ | ⟨he, hq, hb, hc⟩ := escapedChar_cases c
  · simp [he, literalBody]
  · obtain ⟨hq, hb, hs⟩ := digitChar_plain (n := c.toNat / 16) (by omega)
    obtain ⟨hq', hb', hs'⟩ := digitChar_plain (n := c.toNat % 16) (by omega)
    simp [he, literalBody, literalBody_plain hq hb hs, literalBody_plain hq' hb' hs',
      literalBody_plain (c := '0') (by decide) (by decide) (by decide), Function.comp_def]
  · simp [he, literalBody_plain hq hb hc]

/-- The part that a character comes to when its form in a literal is cut off again. -/
theorem literalPieces_escapedChar (c : Char) :
    ∃ piece, (∀ r, literalPieces (escapedChar c ++ r) = (literalPieces r).map (piece :: ·)) ∧
      ∀ ps, joinPieces (piece :: ps) = (joinPieces ps).map (c :: ·) := by
  obtain ⟨d, he, hu, hd⟩ | ⟨hc, he⟩ | ⟨he, -, hb, -⟩ := escapedChar_cases c
  · refine ⟨.char c, fun r => ?_, fun ps => rfl⟩
    rw [he]
    exact literalPieces_escape hu hd r
  · refine ⟨.unit c.toNat, fun r => ?_, fun ps => ?_⟩
    · have hn : ∀ n < 32, Text.hexadecimal? ['0', '0', (n / 16).digitChar, (n % 16).digitChar] =
          some n := by decide
      rw [he]
      change literalPieces ('\\' :: 'u' :: '0' :: '0' :: _ :: _ :: r) = _
      rw [literalPieces, hn _ hc]
      cases literalPieces r <;> rfl
    · have hh : isHigh c.toNat = false := by simp [isHigh]; omega
      have hl : isLow c.toNat = false := by simp [isLow]; omega
      exact joinPieces_unit hh hl ps
  · refine ⟨.char c, fun r => ?_, fun ps => rfl⟩
    rw [he]
    exact literalPieces_plain hb r

theorem literalBody_text (s rest : List Char) :
    literalBody (s.flatMap escapedChar ++ '"' :: rest) = some (s.flatMap escapedChar, rest) := by
  induction s with
  | nil => rfl
  | cons c s ih => simp [literalBody_escapedChar, ih]

theorem joinPieces_text (s : List Char) :
    ∃ ps, literalPieces (s.flatMap escapedChar) = some ps ∧ joinPieces ps = some s := by
  induction s with
  | nil => exact ⟨[], rfl, rfl⟩
  | cons c s ih =>
    obtain ⟨ps, hp, hj⟩ := ih
    obtain ⟨piece, hc, hs⟩ := literalPieces_escapedChar c
    refine ⟨piece :: ps, ?_, ?_⟩
    · rw [List.flatMap_cons, hc, hp]
      rfl
    · rw [hs, hj]
      rfl

theorem literal?_text (s : String) (rest : List Char) :
    literal? (s.toList.flatMap escapedChar ++ '"' :: rest) = some (some s, rest) := by
  obtain ⟨ps, hp, hj⟩ := joinPieces_text s.toList
  simp [literal?, literalBody_text, hp, hj]

theorem escapedChar_printing (d : Char) : ∀ c ∈ escapedChar d, 32 ≤ c.toNat := by
  obtain ⟨e, he, -, hd⟩ | ⟨hd, he⟩ | ⟨he, -, -, hd⟩ := escapedChar_cases d
  · have hs : 32 ≤ e.toNat := by
      unfold escape? at hd
      split at hd <;> first | decide | cases hd
    simp [he, hs]
  · obtain ⟨-, -, hs⟩ := digitChar_plain (n := d.toNat / 16) (by omega)
    obtain ⟨-, -, hr⟩ := digitChar_plain (n := d.toNat % 16) (by omega)
    simp [he, hs, hr]
  · simpa [he] using hd

theorem literal_printing (s : Option String) : ∀ c ∈ literal s, 32 ≤ c.toNat := by
  intro c hc
  simp only [literal, List.mem_append, List.mem_cons, List.mem_flatMap] at hc
  obtain (rfl | ⟨d, -, hd⟩) | rfl | hc := hc
  · decide
  · exact escapedChar_printing d c hd
  · decide
  · cases hc

end ScreenAgent.Json
