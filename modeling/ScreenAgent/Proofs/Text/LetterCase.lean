import Mathlib.Data.List.Forall2
import ScreenAgent.Proofs.Text.Search
import ScreenAgent.Unicode.CaseFolding

namespace ScreenAgent

namespace Unicode

/-- Where the runs move a code point of theirs. -/
def FoldingRun.moved? (r : FoldingRun) (n : Nat) : Option Nat :=
  let gap := n - r.first
  if r.first ≤ n ∧ gap % r.step = 0 ∧ gap / r.step < r.count then some (n + r.shift : Int).toNat
  else none

/-- Small letters that fold to another letter. -/
def smallFolded : Ranges :=
  [(0xB5, 0xB5), (0x17F, 0x17F), (0x345, 0x345), (0x3C2, 0x3C2), (0x3D0, 0x3D1), (0x3D5, 0x3D6),
    (0x3F0, 0x3F1), (0x3F5, 0x3F5), (0x13F8, 0x13FD), (0x1C80, 0x1C88), (0x1E9B, 0x1E9B),
    (0x1FBE, 0x1FBE), (0x1FD3, 0x1FD3), (0x1FE3, 0x1FE3), (0xAB70, 0xABBF), (0xFB05, 0xFB05)]

/-- Capitals beyond those that fold to their small letters: the ones of Cherokee, to which the small
letters fold, and the ones that version 17 adds. -/
def capitalRuns : List FoldingRun :=
  [⟨0x13A0, 80, 1, 38864⟩, ⟨0x13F0, 6, 1, 8⟩, ⟨0xA7CE, 1, 1, 1⟩, ⟨0xA7D2, 2, 2, 1⟩,
    ⟨0x16EA0, 25, 1, 27⟩]

/-- The small letter for a code point, which is its own if it has no other. -/
def small (n : Nat) : Nat :=
  if smallFolded.contains n then n
  else ((capitalRuns ++ foldingRuns).findSome? fun r => r.moved? n).getD n

/-- A character in lower case. The capital i with a dot above keeps its dot as a second character. -/
def lower (c : Char) : List Char :=
  if c.toNat < 128 then [c.toLower]
  else if c = 'İ' then ['i', '\u0307']
  else [Char.ofNat (small c.toNat)]

theorem lower_of_lt {c : Char} (h : c.toNat < 128) : lower c = [c.toLower] := if_pos h

end Unicode

namespace Text

def lowered (s : List Char) : List Char := s.flatMap Unicode.lower

def SameBeyondAscii (a b : List Char) : Prop :=
  List.Forall₂ (fun c d => c = d ∨ (c.toNat < 128 ∧ d.toNat < 128)) a b

instance (a b : List Char) : Decidable (SameBeyondAscii a b) :=
  inferInstanceAs (Decidable (List.Forall₂ _ a b))

/-- Texts with the same letters, of which only those of ASCII may differ in case. -/
def Recased (a b : List Char) : Prop := lowered a = lowered b ∧ SameBeyondAscii a b

instance (a b : List Char) : Decidable (Recased a b) := inferInstanceAs (Decidable (_ ∧ _))

variable {a b : List Char}

theorem toLower_toNat_lt {c : Char} : c.toLower.toNat < 128 ↔ c.toNat < 128 := by
  by_cases hc : c.toNat < 128
  · have hs : ∀ n < 128, (Char.ofNat n).toLower.toNat < 128 := by decide
    simpa [hc] using hs c.toNat hc
  · rw [toLower_of_le (Nat.not_lt.mp hc)]

/-- Putting the capitals of ASCII in lower case makes two characters the same exactly if lower case makes
them the same and they are both of ASCII or were the same before. -/
theorem toLower_eq_iff {c d : Char} : c.toLower = d.toLower ↔
    Unicode.lower c = Unicode.lower d ∧ (c = d ∨ (c.toNat < 128 ∧ d.toNat < 128)) := by
  constructor
  · intro h
    have hiff : c.toNat < 128 ↔ d.toNat < 128 := by
      rw [← toLower_toNat_lt, h, toLower_toNat_lt]
    by_cases hc : c.toNat < 128
    · have hd := hiff.mp hc
      exact ⟨by rw [Unicode.lower_of_lt hc, Unicode.lower_of_lt hd, h], .inr ⟨hc, hd⟩⟩
    · have hd := mt hiff.mpr hc
      rw [toLower_of_le (Nat.not_lt.mp hc), toLower_of_le (Nat.not_lt.mp hd)] at h
      exact ⟨congrArg Unicode.lower h, .inl h⟩
  · rintro ⟨hl, rfl | ⟨hc, hd⟩⟩
    · rfl
    · rw [Unicode.lower_of_lt hc, Unicode.lower_of_lt hd] at hl
      exact List.singleton_inj.mp hl

/-- Comparing small letters of ASCII finds the texts that differ in the case of ASCII letters, and
misses those that differ in the case of others. -/
theorem asciiLower_eq_iff : asciiLower a = asciiLower b ↔ Recased a b := by
  constructor
  · intro h
    have hall : List.Forall₂ (fun c d => c.toLower = d.toLower) a b := by
      rwa [← List.forall₂_map_right_iff, ← List.forall₂_map_left_iff, List.forall₂_eq_eq_eq]
    refine ⟨?_, hall.imp fun c d hc => (toLower_eq_iff.mp hc).2⟩
    clear h
    induction hall with
    | nil => rfl
    | cons hc _ ih => exact congrArg₂ (· ++ ·) (toLower_eq_iff.mp hc).1 ih
  · rintro ⟨hl, hs⟩
    induction hs with
    | nil => rfl
    | @cons c d a b hc _ ih =>
      -- characters of ASCII give one letter each, so the first two are cut off at the same place
      have hlen : (Unicode.lower c).length = (Unicode.lower d).length := by
        obtain rfl | ⟨hc, hd⟩ := hc
        · rfl
        · rw [Unicode.lower_of_lt hc, Unicode.lower_of_lt hd]
          rfl
      obtain ⟨hcd, hr⟩ := List.append_inj hl hlen
      exact congrArg₂ List.cons (toLower_eq_iff.mpr ⟨hcd, hc⟩) (ih hr)

theorem sameAsciiCase_iff : sameAsciiCase a b = true ↔ Recased a b := by
  rw [sameAsciiCase, beq_iff_eq, asciiLower_eq_iff]

-- Small and capital letters of other scripts are the same in lower case, and yet told apart.
example : Recased "Straße".toList "sTRAßE".toList ∧
    lowered "É Σς Ꭰ 𐐀".toList = lowered "é σς ꭰ 𐐨".toList ∧
    ¬ Recased "É Σς Ꭰ 𐐀".toList "é σς ꭰ 𐐨".toList := by
  decide

theorem isBlank_toLower (c : Char) : isBlank c.toLower = isBlank c := by
  by_cases hc : c.toNat < 128
  · have hs : ∀ n < 128, isBlank (Char.ofNat n).toLower = isBlank (Char.ofNat n) := by decide
    simpa using hs c.toNat hc
  · rw [toLower_of_le (Nat.not_lt.mp hc)]

theorem trim_asciiLower (s : List Char) : trim (asciiLower s) = asciiLower (trim s) := by
  have hb : isBlank ∘ Char.toLower = isBlank := funext isBlank_toLower
  simp only [trim, trimEnd, trimStart, asciiLower, List.dropWhile_map, ← List.map_reverse, hb]

end Text

end ScreenAgent
