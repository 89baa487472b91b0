import ScreenAgent.Proofs.Json.Layout

namespace ScreenAgent.Json

theorem isGap_newline (depth : Nat) : IsGap (newline depth) := by
  intro c hc
  obtain rfl | hc := List.mem_cons.mp hc
  · rfl
  · rw [List.eq_of_mem_replicate hc]
    rfl

theorem isGap_blank : IsGap [' '] := by
  intro c hc
  rw [List.mem_singleton.mp hc]
  rfl

/-- A gap behind every comma and before the first part is a gap before each part. -/
theorem gap_joinWith {α : Type} (gap : List Char) (text : α → List Char) (a : α) (as : List α) :
    gap ++ joinWith (',' :: gap) ((a :: as).map text) =
      joinWith [','] ((a :: as).map fun b => gap ++ text b) := by
  induction as generalizing a with
  | nil => rfl
  | cons b as ih =>
    calc gap ++ joinWith (',' :: gap) ((a :: b :: as).map text)
        = gap ++ text a ++ ',' :: (gap ++ joinWith (',' :: gap) ((b :: as).map text)) := by
          simp [joinWith]
      _ = gap ++ text a ++ ',' :: joinWith [','] ((b :: as).map fun b => gap ++ text b) := by
          rw [ih]
      _ = joinWith [','] ((a :: b :: as).map fun b => gap ++ text b) := by
          simp [joinWith]

theorem indentedItems_eq (depth : Nat) (items : List Json) :
    indentedItems depth items = items.map (indented depth) := by
  induction items with
  | nil => rfl
  | cons j items ih => rw [indentedItems, ih, List.map_cons]

def indentedMember (depth : Nat) (m : String × Json) : List Char :=
  literal m.1 ++ ':' :: ' ' :: indented depth m.2

theorem indentedMembers_eq (depth : Nat) (members : List (String × Json)) :
    indentedMembers depth (members.map fun m => (some m.1, m.2)) =
      members.map (indentedMember depth) := by
  induction members with
  | nil => rfl
  | cons m members ih =>
    rw [List.map_cons, indentedMembers, ih, List.map_cons]
    rfl

theorem indented_array (depth : Nat) (j : Json) (items : List Json) :
    indented depth (.array (j :: items)) =
      '[' :: (joinWith [','] ((j :: items).map fun k => newline (depth + 1) ++
        indented (depth + 1) k) ++ (newline depth ++ [']'])) := by
  rw [indented, indentedItems_eq, ← gap_joinWith]
  simp only [List.cons_append, List.append_assoc]

theorem indented_ofMembers (depth : Nat) (m : String × Json) (members : List (String × Json)) :
    indented depth (.ofMembers (m :: members)) =
      '\x7b' :: (joinWith [','] ((m :: members).map fun k => newline (depth + 1) ++
        indentedMember (depth + 1) k) ++ (newline depth ++ ['\x7d'])) := by
  have hm := indentedMembers_eq (depth + 1) (m :: members)
  rw [List.map_cons] at hm
  rw [ofMembers, List.map_cons, indented, hm, ← gap_joinWith]
  simp only [List.cons_append, List.append_assoc]

theorem Proper.spells_indented {j : Json} (h : j.Proper) (depth : Nat) :
    Spells (indented depth j) j := by
  induction h generalizing depth with
  | null => exact spells_null
  | bool b => exact spells_bool b
  | number h => exact spells_number h
  | text s => exact spells_text s
  | @array items _ ih =>
    cases items with
    | nil => exact spells_array .nil isGap_nil
    | cons j items =>
      have hi : List.Forall₂ Spells
          ((j :: items).map fun k => newline (depth + 1) ++ indented (depth + 1) k) (j :: items) :=
        List.forall₂_map_left_iff.mpr (List.forall₂_same.mpr fun k hk =>
          (ih k hk (depth + 1)).gap (isGap_newline (depth + 1)))
      rw [indented_array]
      exact spells_array hi (isGap_newline depth)
  | @object members _ ih =>
    cases members with
    | nil => exact spells_object .nil isGap_nil
    | cons m members =>
      have hm : List.Forall₂ SpellsMember
          ((m :: members).map fun k => newline (depth + 1) ++ indentedMember (depth + 1) k)
          (m :: members) :=
        List.forall₂_map_left_iff.mpr (List.forall₂_same.mpr fun k hk =>
          ⟨newline (depth + 1), ' ' :: indented (depth + 1) k.2, isGap_newline (depth + 1),
            (List.append_assoc ..).symm, (ih k hk (depth + 1)).gap isGap_blank⟩)
      rw [indented_ofMembers]
      exact spells_object hm (isGap_newline depth)

theorem Proper.read?_indented {j : Json} (h : j.Proper) : read? (indented 0 j) = some j :=
  (h.spells_indented 0).read?

end ScreenAgent.Json
