import ScreenAgent.Proofs.Json.Layout

namespace ScreenAgent.Json

@[simp]
theorem compact_null : compact .null = ['n', 'u', 'l', 'l'] := rfl

@[simp]
theorem compact_bool (b : Bool) : compact (.bool b) = (if b then "true" else "false").toList := rfl

@[simp]
theorem compact_number (n : Numeral) : compact (.number n) = numeral n := rfl

@[simp]
theorem compact_text (s : String) : compact (.text s) = literal (some s) := rfl

def memberText (m : String × Json) : List Char := literal m.1 ++ ':' :: compact m.2

theorem compactItems_eq (items : List Json) : compactItems items = items.map compact := by
  induction items with
  | nil => rfl
  | cons j items ih => rw [compactItems, ih, List.map_cons]

theorem compactMembers_eq (members : List (String × Json)) :
    compactMembers (members.map fun m => (some m.1, m.2)) = members.map memberText := by
  induction members with
  | nil => rfl
  | cons m members ih =>
    rw [List.map_cons, compactMembers, ih, List.map_cons]
    rfl

theorem compact_array (items : List Json) :
    compact (.array items) = '[' :: (joinWith [','] (items.map compact) ++ [']']) := by
  rw [← compactItems_eq]
  rfl

theorem compact_ofMembers (members : List (String × Json)) :
    compact (.ofMembers members) =
      '\x7b' :: (joinWith [','] (members.map memberText) ++ ['\x7d']) := by
  rw [← compactMembers_eq]
  rfl

theorem compact_begins {j : Json} (h : j.Proper) :
    ∃ c r, compact j = c :: r ∧ isSpace c = false := by
  cases h with
  | null => exact ⟨_, _, rfl, rfl⟩
  | bool b => cases b <;> exact ⟨_, _, rfl, rfl⟩
  | number h =>
    obtain ⟨c, r, hc, hb⟩ := numeral_begins h
    exact ⟨c, r, hc, isSpace_of_begins hb⟩
  | text s => exact ⟨_, _, rfl, rfl⟩
  | array h => exact ⟨_, _, rfl, rfl⟩
  | object h => exact ⟨_, _, rfl, rfl⟩

theorem Proper.readsBack {j : Json} (h : j.Proper) : Spells (compact j) j := by
  induction h with
  | null => exact spells_null
  | bool b => exact spells_bool b
  | number h => exact spells_number h
  | text s => exact spells_text s
  | @array items _ ih =>
    have hi : List.Forall₂ Spells (items.map compact) items :=
      List.forall₂_map_left_iff.mpr (List.forall₂_same.mpr ih)
    rw [compact_array]
    exact spells_array hi isGap_nil
  | @object members _ ih =>
    have hm : List.Forall₂ SpellsMember (members.map memberText) members :=
      List.forall₂_map_left_iff.mpr (List.forall₂_same.mpr fun m hm =>
        ⟨[], compact m.2, isGap_nil, rfl, ih m hm⟩)
    rw [compact_ofMembers]
    exact spells_object hm isGap_nil

theorem Proper.read?_compact {j : Json} (h : j.Proper) : read? (compact j) = some j :=
  h.readsBack.read?

theorem joinWith_printing {texts : List (List Char)} (h : ∀ t ∈ texts, ∀ c ∈ t, 32 ≤ c.toNat) :
    ∀ c ∈ joinWith [','] texts, 32 ≤ c.toNat := by
  induction texts with
  | nil => simp [joinWith]
  | cons t texts ih =>
    have ht := h t List.mem_cons_self
    have hr := ih fun u hu => h u (List.mem_cons_of_mem _ hu)
    cases texts with
    | nil => exact ht
    | cons u texts =>
      intro c hc
      simp only [joinWith, List.mem_append, List.mem_singleton] at hc
      obtain (hc | rfl) | hc := hc
      · exact ht c hc
      · decide
      · exact hr c hc

/-- A compact text has no control character in it, so it stays on one line. -/
theorem Proper.compact_printing {j : Json} (h : j.Proper) : ∀ c ∈ compact j, 32 ≤ c.toNat := by
  induction h with
  | null => simp
  | bool b => cases b <;> simp
  | number h => exact numeral_printing h
  | text s => exact literal_printing (some s)
  | array _ ih =>
    have hj := joinWith_printing (List.forall_mem_map.mpr ih)
    intro c hc
    simp only [compact_array, List.mem_append, List.mem_cons] at hc
    obtain rfl | hc | rfl | hc := hc
    · decide
    · exact hj c hc
    · decide
    · cases hc
  | @object members _ ih =>
    have hm : ∀ m ∈ members, ∀ c ∈ memberText m, 32 ≤ c.toNat := by
      intro m hm c hc
      obtain hc | rfl | hc := by simpa only [memberText, List.mem_append, List.mem_cons] using hc
      · exact literal_printing _ c hc
      · decide
      · exact ih m hm c hc
    have hj := joinWith_printing (List.forall_mem_map.mpr hm)
    intro c hc
    simp only [compact_ofMembers, List.mem_append, List.mem_cons] at hc
    obtain rfl | hc | rfl | hc := hc
    · decide
    · exact hj c hc
    · decide
    · cases hc

end ScreenAgent.Json
