import ScreenAgent.Proofs.Text.Search
import ScreenAgent.Text.Uuid

namespace ScreenAgent

namespace Uuid

theorem digit?_letter : ∀ d : Fin 16, digit? (letter d) = some d := by decide

theorem letter_ne_hyphen : ∀ d : Fin 16, (letter d == '-') = false := by decide

theorem mapM_letters (ds : List (Fin 16)) : (ds.map letter).mapM digit? = some ds := by
  induction ds with
  | nil => rfl
  | cons d ds ih => simp [digit?_letter, ih]

theorem ofDigits?_letters (u : Uuid) : ofDigits? (u.digits.map letter) = some u := by
  rw [ofDigits?, mapM_letters]
  exact dif_pos u.size

theorem ofText?_toText (u : Uuid) : ofText? u.toText = some u := by
  have hd := ofDigits?_letters u
  have hs : (u.digits.map letter).length = 32 := by simp [u.size]
  have hh : ∀ c ∈ u.digits.map letter, (c == '-') = false := by
    intro c hc
    obtain ⟨d, -, rfl⟩ := List.mem_map.mp hc
    exact letter_ne_hyphen d
  have he : u.toText.length = 36 := by simp [toText, u.size]
  unfold ofText?
  rw [if_neg (by omega), if_pos he, ofGroups?]
  simp only [toText, List.append_assoc, List.cons_append]
  generalize u.digits.map letter = cs at hd hs hh
  have part : ∀ i n, ∀ c ∈ (cs.drop i).take n, (c == '-') = false := fun i n c hc =>
    hh c (List.mem_of_mem_drop (List.mem_of_mem_take hc))
  have first : ∀ c ∈ cs.take 8, (c == '-') = false := part 0 8
  have last : ∀ c ∈ cs.drop 20, (c == '-') = false := fun c hc => hh c (List.mem_of_mem_drop hc)
  have hp : Text.pieces (· == '-') (cs.take 8 ++ '-' :: ((cs.drop 8).take 4 ++ '-' ::
      ((cs.drop 12).take 4 ++ '-' :: ((cs.drop 16).take 4 ++ '-' :: cs.drop 20)))) =
      [cs.take 8, (cs.drop 8).take 4, (cs.drop 12).take 4, (cs.drop 16).take 4, cs.drop 20] := by
    rw [Text.pieces_cut first rfl, Text.pieces_cut (part 8 4) rfl, Text.pieces_cut (part 12 4) rfl,
      Text.pieces_cut (part 16 4) rfl, Text.pieces_whole last]
  have hf : [cs.take 8, (cs.drop 8).take 4, (cs.drop 12).take 4, (cs.drop 16).take 4,
      cs.drop 20].flatten = cs := by
    have h16 := List.take_append_drop 4 (cs.drop 16)
    have h12 := List.take_append_drop 4 (cs.drop 12)
    have h8 := List.take_append_drop 4 (cs.drop 8)
    rw [List.drop_drop] at h16 h12 h8
    simp [h16, h12, h8]
  rw [hp, hf, if_pos (by simp [hs]), hd]

end Uuid

end ScreenAgent
