import ScreenAgent.Proofs.Text.Search

namespace ScreenAgent.Text

def IsWord (w : List Char) : Prop := w ≠ [] ∧ ∀ c ∈ w, isBlank c = false

/-- Words one behind the other, with white space between them, and perhaps before and behind. -/
inductive Spaced : (ws : List (List Char)) → (s : List Char) → Prop
  | blanks (blanks : List Char) (hb : ∀ c ∈ blanks, isBlank c = true) : Spaced [] blanks
  | word (blanks w : List Char) {s : List Char} {ws : List (List Char)}
      (hb : ∀ c ∈ blanks, isBlank c = true) (hw : IsWord w)
      (hs : ∀ c ∈ s.head?, isBlank c = true) (h : Spaced ws s) :
      Spaced (w :: ws) (blanks ++ (w ++ s))

theorem words_cut {c : Char} (hc : isBlank c = true) (s t : List Char) :
    words (s ++ c :: t) = words s ++ words t := by
  rw [words, pieces_append hc, List.filter_append]
  rfl

theorem words_blanks {blanks : List Char} (hb : ∀ c ∈ blanks, isBlank c = true) (s : List Char) :
    words (blanks ++ s) = words s := by
  induction blanks with
  | nil => rfl
  | cons c blanks ih =>
    have hr := ih fun d hd => hb d (List.mem_cons_of_mem _ hd)
    exact (words_cut (hb c List.mem_cons_self) [] _).trans hr

theorem words_word {w s : List Char} (hw : IsWord w) (hs : ∀ c ∈ s.head?, isBlank c = true) :
    words (w ++ s) = w :: words s := by
  have hone : words w = [w] := by
    rw [words, pieces_whole hw.2]
    simp [hw.1]
  cases s with
  | nil => rw [List.append_nil, hone]; rfl
  | cons c s =>
    have hc := hs c rfl
    rw [words_cut hc, hone]
    exact congrArg _ (words_cut hc [] s).symm

theorem Spaced.words_eq {ws : List (List Char)} {s : List Char} (h : Spaced ws s) :
    words s = ws := by
  induction h with
  | blanks bs hb =>
    have hw := words_blanks hb []
    rwa [List.append_nil] at hw
  | word _ _ hb hw hs _ ih => rw [words_blanks hb, words_word hw hs, ih]

theorem spaced_words (s : List Char) : Spaced (words s) s := by
  -- what is left behind the first word is shorter, so the induction is on the length
  induction hl : s.length using Nat.strongRecOn generalizing s with
  | _ n ih =>
    subst hl
    obtain ⟨blanks, r, rfl, hb, hr⟩ := exists_run isBlank s
    obtain ⟨w, t, rfl, hw, ht⟩ := exists_run (!isBlank ·) r
    have ht' : ∀ c ∈ t.head?, isBlank c = true := fun c hc => by simpa using ht c hc
    rw [words_blanks hb]
    cases w with
    | nil =>
      cases t with
      | nil =>
        rw [List.append_nil, List.append_nil]
        exact .blanks blanks hb
      | cons c t => cases (hr c rfl).symm.trans (ht' c rfl)
    | cons c w =>
      have hword : IsWord (c :: w) := ⟨List.cons_ne_nil c w, fun d hd => by simpa using hw d hd⟩
      rw [words_word hword ht']
      exact .word blanks (c :: w) hb hword ht' (ih t.length (by simp; omega) t rfl)

theorem spaced_iff {ws : List (List Char)} {s : List Char} : Spaced ws s ↔ words s = ws :=
  ⟨Spaced.words_eq, fun h => h ▸ spaced_words s⟩

theorem words_dropReturn (s : List Char) : words (dropReturn s) = words s := by
  rw [dropReturn]
  split
  · rename_i hr
    obtain ⟨t, rfl⟩ := List.getLast?_eq_some_iff.mp hr
    rw [List.dropLast_concat, words_cut (by decide)]
    exact (List.append_nil _).symm
  · rfl

theorem lines_cut {l : List Char} (hl : '\n' ∉ l) (s : List Char) :
    lines (l ++ '\n' :: s) = dropReturn l :: lines s := by
  have hp : ∀ c ∈ l, (c == '\n') = false := fun c hc => by
    simpa using ne_of_mem_of_not_mem hc hl
  have hs := pieces_ne_nil (· == '\n') s
  simp only [lines, pieces_cut hp (c := '\n') rfl, List.dropLast_cons_of_ne_nil hs, List.map_cons,
    List.cons_append, List.getLast?_cons_of_ne_nil hs]

theorem lines_open {l : List Char} (hl : '\n' ∉ l) : lines l = if l = [] then [] else [l] := by
  have hp : ∀ c ∈ l, (c == '\n') = false := fun c hc => by
    simpa using ne_of_mem_of_not_mem hc hl
  rw [lines, pieces_whole hp]
  split <;> simp_all

end ScreenAgent.Text
