import Mathlib.Data.List.DropRight
import Mathlib.Data.List.Forall2
import ScreenAgent.Proofs.Json.Literal
import ScreenAgent.Proofs.Json.Numeral

namespace ScreenAgent.Json

/-- Values that a text can give: their numbers have a spelling and their strings and keys a text. -/
inductive Proper : Json → Prop
  | null : Proper .null
  | bool (b : Bool) : Proper (.bool b)
  | number {n : Numeral} (h : n.Proper) : Proper (.number n)
  | text (s : String) : Proper (.text s)
  | array {items : List Json} (h : ∀ j ∈ items, Proper j) : Proper (.array items)
  | object {members : List (String × Json)} (h : ∀ m ∈ members, Proper m.2) :
      Proper (.ofMembers members)

theorem proper_nat (n : Nat) : (nat n).Proper := .number (Numeral.proper_ofNat n)

theorem proper_int (z : Int) : (int z).Proper := .number (Numeral.proper_ofInt z)

theorem proper_ofOption {α : Type} {encode : α → Json} (h : ∀ a, (encode a).Proper) (o : Option α) :
    (ofOption encode o).Proper := by
  cases o with
  | none => exact .null
  | some a => exact h a

/-- The value is read from the text in as many steps as the text is long, and the reader stops right
behind it. -/
def Spells (t : List Char) (j : Json) : Prop :=
  ∀ (steps : Nat) (rest : List Char), t.length ≤ steps → EndsNumeral rest →
    value? steps (t ++ rest) = some (j, rest)

theorem ends_nil : EndsNumeral [] := by
  rintro c ⟨⟩

theorem Spells.read? {t : List Char} {j : Json} (h : Spells t j) : read? t = some j := by
  have hv := h (t.length + 1) [] (by omega) ends_nil
  rw [List.append_nil] at hv
  simp [Json.read?, hv, skipSpace]

def IsGap (gap : List Char) : Prop := ∀ c ∈ gap, isSpace c = true

theorem isGap_nil : IsGap [] := by simp [IsGap]

theorem skipSpace_of_isSpace {c : Char} (h : isSpace c = false) (r : List Char) :
    skipSpace (c :: r) = c :: r := by
  simp [skipSpace, h]

theorem IsGap.skipSpace {gap : List Char} (h : IsGap gap) (r : List Char) :
    skipSpace (gap ++ r) = Json.skipSpace r :=
  List.dropWhile_append_of_pos h

theorem skipSpace_skipSpace (s : List Char) : skipSpace (skipSpace s) = skipSpace s :=
  List.dropWhile_idempotent isSpace s

theorem value?_skipSpace (n : Nat) (s : List Char) : value? n (skipSpace s) = value? n s := by
  cases n with
  | zero => rfl
  | succ n => rw [value?, value?, skipSpace_skipSpace]

theorem items?_skipSpace (n : Nat) (s : List Char) : items? n (skipSpace s) = items? n s := by
  cases n with
  | zero => rfl
  | succ n => rw [items?, items?, value?_skipSpace]

theorem members?_skipSpace (n : Nat) (s : List Char) : members? n (skipSpace s) = members? n s := by
  cases n with
  | zero => rfl
  | succ n => rw [members?, members?, skipSpace_skipSpace]

theorem Spells.gap {gap t : List Char} {j : Json} (hg : IsGap gap) (h : Spells t j) :
    Spells (gap ++ t) j := by
  intro steps rest hs hr
  rw [List.length_append] at hs
  have hv := h steps rest (by omega) hr
  rwa [← value?_skipSpace, List.append_assoc, hg.skipSpace, value?_skipSpace]

theorem ends_comma (rest : List Char) : EndsNumeral (',' :: rest) := by
  rintro c ⟨⟩
  decide

theorem ends_bracket (rest : List Char) : EndsNumeral (']' :: rest) := by
  rintro c ⟨⟩
  decide

theorem ends_brace (rest : List Char) : EndsNumeral ('\x7d' :: rest) := by
  rintro c ⟨⟩
  decide

theorem IsGap.ends {gap rest : List Char} (h : IsGap gap) (hr : EndsNumeral rest) :
    EndsNumeral (gap ++ rest) := by
  cases gap with
  | nil => exact hr
  | cons c gap =>
    have hc : isSpace c = true := h c List.mem_cons_self
    rintro d ⟨⟩
    obtain ((rfl | rfl) | rfl) | rfl := by
      simpa only [isSpace, Bool.or_eq_true, beq_iff_eq] using hc
    all_goals decide

theorem skipSpace_append {s q : List Char} {c : Char} (h : skipSpace s = c :: q) (r : List Char) :
    skipSpace (s ++ r) = c :: (q ++ r) := by
  unfold skipSpace at h ⊢
  rw [List.dropWhile_append, h]
  rfl

theorem isSpace_of_begins {c : Char} (h : begins c = true) : isSpace c = false := by
  have ha : ∀ d, begins d = false → c ≠ d := fun d hn he => by simp [← he, h] at hn
  simp [isSpace, ha ' ' rfl, ha '\n' rfl, ha '\t' rfl, ha '\r' rfl]

theorem value?_quote (steps : Nat) (r : List Char) :
    value? (steps + 1) ('"' :: r) = (literal? r).map fun p => (.string p.1, p.2) := rfl

theorem value?_number {c : Char} (h : begins c = true) (steps : Nat) (r : List Char) :
    value? (steps + 1) (c :: r) = (numeral? (c :: r)).map fun p => (.number p.1, p.2) := by
  have ha : ∀ d, begins d = false → c ≠ d := fun d hn he => by simp [← he, h] at hn
  rw [value?, skipSpace_of_isSpace (isSpace_of_begins h)]
  split
  -- none of the other values begins like a number
  all_goals first
    | rfl
    | rename_i he; exact absurd (List.cons.inj he).1 (ha _ rfl)

theorem spells_null : Spells ['n', 'u', 'l', 'l'] .null := by
  intro steps rest hs hr
  cases steps with
  | zero => simp at hs
  | succ steps => rfl

theorem spells_bool (b : Bool) : Spells (if b then "true" else "false").toList (.bool b) := by
  intro steps rest hs hr
  cases steps with
  | zero => cases b <;> simp at hs
  | succ steps => cases b <;> rfl

theorem spells_text (s : String) : Spells (literal (some s)) (.text s) := by
  intro steps rest hs hr
  cases steps with
  | zero => simp [literal] at hs
  | succ steps =>
    have hl := literal?_text s rest
    simp [literal, value?_quote, hl]
    rfl

theorem spells_number {n : Numeral} (h : n.Proper) : Spells (numeral n) (.number n) := by
  intro steps rest hs hr
  have ht := numeral?_text h hr
  obtain ⟨c, r, hc, hb⟩ := numeral_begins h
  rw [hc] at hs ⊢
  rw [hc, List.cons_append] at ht
  cases steps with
  | zero => simp at hs
  | succ steps =>
    rw [List.cons_append, value?_number hb, ht]
    rfl

theorem joinWith_first (separator a : List Char) (r : List (List Char)) :
    ∃ t, joinWith separator (a :: r) = a ++ t := by
  cases r with
  | nil => exact ⟨[], (List.append_nil a).symm⟩
  | cons b r => exact ⟨_, List.append_assoc a separator _⟩

theorem skipSpace_joined {t q : List Char} {c : Char} (h : skipSpace t = c :: q)
    (texts : List (List Char)) (ending : List Char) :
    ∃ r, skipSpace (joinWith [','] (t :: texts) ++ ending) = c :: r := by
  obtain ⟨u, hu⟩ := joinWith_first [','] t texts
  rw [hu, List.append_assoc]
  exact ⟨_, skipSpace_append h (u ++ ending)⟩

/-- A reader of lists takes an element with the ending behind it, and an element with a comma behind it
before the elements of the rest. -/
structure Lists {α β : Type} (reader : Nat → List Char → Option (List β × List Char))
    (spells : List Char → α → Prop) (form : α → β) (ending rest : List Char) : Prop where
  last : ∀ t a, spells t a → ∀ steps, t.length ≤ steps →
    reader (steps + 1) (t ++ ending) = some ([form a], rest)
  next : ∀ t a, spells t a → ∀ steps r, t.length ≤ steps →
    reader (steps + 1) (t ++ ',' :: r) = (reader steps r).map fun p => (form a :: p.1, p.2)

theorem Lists.joined {α β : Type} {reader : Nat → List Char → Option (List β × List Char)}
    {spells : List Char → α → Prop} {form : α → β} {ending rest : List Char}
    (h : Lists reader spells form ending rest) {texts : List (List Char)} {as : List α}
    (ht : List.Forall₂ spells texts as) (hn : as ≠ []) (steps : Nat)
    (hs : (joinWith [','] texts).length < steps) :
    reader steps (joinWith [','] texts ++ ending) = some (as.map form, rest) := by
  induction ht generalizing steps with
  | nil => exact absurd rfl hn
  | @cons t a texts as ht hts ih =>
    obtain ⟨steps, rfl⟩ : ∃ s, steps = s + 1 := ⟨steps - 1, by omega⟩
    cases hts with
    | nil =>
      have hl : t.length ≤ steps := Nat.le_of_lt_succ hs
      exact h.last t a ht steps hl
    | @cons u b texts as =>
      have he : joinWith [','] (t :: u :: texts) = t ++ ',' :: joinWith [','] (u :: texts) := by
        simp [joinWith]
      rw [he, List.length_append, List.length_cons] at hs
      have hr := ih (by simp) steps (by omega)
      rw [he, List.append_assoc, List.cons_append, h.next t a ht steps _ (by omega), hr]
      rfl

theorem lists_items {close : List Char} (hc : IsGap close) (rest : List Char) :
    Lists items? Spells id (close ++ ']' :: rest) rest where
  last t j ht steps hs := by
    have hv := ht steps _ hs (hc.ends (ends_bracket rest))
    have hb : skipSpace (']' :: rest) = ']' :: rest := rfl
    simp [items?, hv, hc.skipSpace, hb]
  next t j ht steps r hs := by
    have hv := ht steps _ hs (ends_comma r)
    have hb : skipSpace (',' :: r) = ',' :: r := rfl
    simp only [items?, hv, hb, Option.bind_eq_bind, Option.bind_some, id]
    cases items? steps r <;> rfl

def SpellsMember (t : List Char) (m : String × Json) : Prop :=
  ∃ gap u, IsGap gap ∧ t = gap ++ literal (some m.1) ++ ':' :: u ∧ Spells u m.2

theorem skipSpace_name {gap : List Char} (hg : IsGap gap) (key : String) (r : List Char) :
    skipSpace (gap ++ literal (some key) ++ r) =
      '"' :: (key.toList.flatMap escapedChar ++ '"' :: r) := by
  rw [List.append_assoc, hg.skipSpace]
  simp [literal, skipSpace, isSpace]

theorem SpellsMember.begins {t : List Char} {m : String × Json} (h : SpellsMember t m) :
    ∃ q, skipSpace t = '"' :: q := by
  obtain ⟨gap, u, hg, rfl, -⟩ := h
  exact ⟨_, skipSpace_name hg m.1 (':' :: u)⟩

theorem lists_members {close : List Char} (hc : IsGap close) (rest : List Char) :
    Lists members? SpellsMember (fun m => (some m.1, m.2)) (close ++ '\x7d' :: rest) rest where
  last t m ht steps hs := by
    obtain ⟨gap, u, hg, rfl, hu⟩ := ht
    simp only [List.length_append, List.length_cons] at hs
    have hv := hu steps _ (by omega) (hc.ends (ends_brace rest))
    have hm : skipSpace (':' :: (u ++ (close ++ '\x7d' :: rest))) =
        ':' :: (u ++ (close ++ '\x7d' :: rest)) := rfl
    have hb : skipSpace ('\x7d' :: rest) = '\x7d' :: rest := rfl
    rw [List.append_assoc, List.cons_append, members?, skipSpace_name hg]
    simp [literal?_text, hm, hv, hc.skipSpace, hb]
  next t m ht steps r hs := by
    obtain ⟨gap, u, hg, rfl, hu⟩ := ht
    simp only [List.length_append, List.length_cons] at hs
    have hv := hu steps _ (by omega) (ends_comma r)
    have hm : skipSpace (':' :: (u ++ ',' :: r)) = ':' :: (u ++ ',' :: r) := rfl
    have hb : skipSpace (',' :: r) = ',' :: r := rfl
    rw [List.append_assoc, List.cons_append, members?, skipSpace_name hg]
    simp only [literal?_text, hm, hv, hb, Option.bind_eq_bind, Option.bind_some]
    cases members? steps r <;> rfl

theorem Spells.begins {t : List Char} {j : Json} (h : Spells t j) :
    ∃ c q, skipSpace t = c :: q ∧ c ≠ ']' := by
  have hv := h (t.length + 1) [] (by omega) ends_nil
  rw [List.append_nil, ← value?_skipSpace] at hv
  cases hs : skipSpace t with
  | nil =>
    rw [hs] at hv
    cases hv
  | cons c q =>
    refine ⟨c, q, rfl, ?_⟩
    rintro rfl
    rw [hs] at hv
    cases hv

theorem value?_bracket {r q : List Char} {c : Char} (hr : skipSpace r = c :: q) (hc : c ≠ ']')
    (steps : Nat) :
    value? (steps + 1) ('[' :: r) = (items? steps r).map fun p => (.array p.1, p.2) := by
  have ho : skipSpace ('[' :: r) = '[' :: r := rfl
  rw [← items?_skipSpace, hr]
  simp only [value?, ho, hr]
  split
  · rename_i he
    exact absurd (List.cons.inj he).1 hc
  · rfl

theorem value?_brace {r q : List Char} {c : Char} (hr : skipSpace r = c :: q) (hc : c ≠ '\x7d')
    (steps : Nat) :
    value? (steps + 1) ('\x7b' :: r) = (members? steps r).map fun p => (.object p.1, p.2) := by
  have ho : skipSpace ('\x7b' :: r) = '\x7b' :: r := rfl
  rw [← members?_skipSpace, hr]
  simp only [value?, ho, hr]
  split
  · rename_i he
    exact absurd (List.cons.inj he).1 hc
  · rfl

theorem spells_array {texts : List (List Char)} {items : List Json} {close : List Char}
    (h : List.Forall₂ Spells texts items) (hc : IsGap close) :
    Spells ('[' :: (joinWith [','] texts ++ (close ++ [']']))) (.array items) := by
  intro steps rest hs hr
  simp only [List.length_cons, List.length_append] at hs
  obtain ⟨steps, rfl⟩ : ∃ s, steps = s + 1 := ⟨steps - 1, by omega⟩
  rw [List.cons_append, List.append_assoc, List.append_assoc, List.singleton_append]
  cases h with
  | nil =>
    have ho : skipSpace ('[' :: (close ++ ']' :: rest)) = '[' :: (close ++ ']' :: rest) := rfl
    have hb : skipSpace (']' :: rest) = ']' :: rest := rfl
    simp only [joinWith, List.nil_append, value?, ho, hc.skipSpace, hb]
  | @cons t j texts items ht hts =>
    obtain ⟨c, q, hq, hne⟩ := ht.begins
    obtain ⟨r, hb⟩ := skipSpace_joined hq texts (close ++ ']' :: rest)
    have hj := (lists_items hc rest).joined (.cons ht hts) (by simp) steps (by omega)
    rw [value?_bracket hb hne, hj, List.map_id]
    rfl

theorem spells_object {texts : List (List Char)} {members : List (String × Json)}
    {close : List Char} (h : List.Forall₂ SpellsMember texts members) (hc : IsGap close) :
    Spells ('\x7b' :: (joinWith [','] texts ++ (close ++ ['\x7d']))) (.ofMembers members) := by
  intro steps rest hs hr
  simp only [List.length_cons, List.length_append] at hs
  obtain ⟨steps, rfl⟩ : ∃ s, steps = s + 1 := ⟨steps - 1, by omega⟩
  rw [List.cons_append, List.append_assoc, List.append_assoc, List.singleton_append]
  cases h with
  | nil =>
    have ho : skipSpace ('\x7b' :: (close ++ '\x7d' :: rest)) =
        '\x7b' :: (close ++ '\x7d' :: rest) := rfl
    have hb : skipSpace ('\x7d' :: rest) = '\x7d' :: rest := rfl
    simp only [joinWith, List.nil_append, value?, ho, hc.skipSpace, hb, ofMembers, List.map_nil]
  | @cons t m texts members ht hts =>
    obtain ⟨q, hq⟩ := ht.begins
    obtain ⟨r, hb⟩ := skipSpace_joined hq texts (close ++ '\x7d' :: rest)
    have hj := (lists_members hc rest).joined (.cons ht hts) (by simp) steps (by omega)
    rw [value?_brace hb (by decide), hj]
    rfl

end ScreenAgent.Json
