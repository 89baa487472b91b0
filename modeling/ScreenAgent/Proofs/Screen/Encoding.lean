import ScreenAgent.Proofs.Json.Compact
import ScreenAgent.Proofs.Json.Record
import ScreenAgent.Screen.Snapshot

namespace ScreenAgent

namespace Coordinate

theorem ofJson?_toJson (c : Coordinate) : ofJson? c.toJson = some c := by
  rw [ofJson?, toJson, Json.integer?_int c.lower c.upper, Option.bind_some]
  exact dif_pos ⟨c.lower, c.upper⟩

end Coordinate

namespace Bounds

theorem proper_toJson (b : Bounds) : b.toJson.Proper := by
  apply Json.Proper.object
  simp [Coordinate.toJson, Json.proper_int]

theorem ofJson?_toJson (b : Bounds) (levels : Nat) : ofJson? (levels + 1) b.toJson = some b := by
  have hr : b.toJson.record? ["left", "top", "right", "bottom"] = some ⟨false, _⟩ :=
    Json.record?_ofMembers (by simp) (by simp)
  simp [ofJson?, hr, Json.Record.required, Coordinate.ofJson?_toJson]

end Bounds

namespace Element

theorem proper_toJson (e : Element) : e.toJson.Proper := by
  apply Json.Proper.object
  simp [e.bounds.proper_toJson, Json.proper_ofOption Json.Proper.text, Json.Proper.text,
    Json.Proper.bool]

theorem ofJson?_toJson (e : Element) (levels : Nat) : ofJson? (levels + 2) e.toJson = some e := by
  have hr : e.toJson.record? ["identifier", "text", "element_class", "bounds", "clickable",
      "editable"] = some ⟨false, _⟩ := Json.record?_ofMembers (by simp) (by simp)
  have hi : Json.nullable Json.text? (Json.ofOption Json.text e.identifier) = some e.identifier :=
    Json.nullable_ofOption (by simp [Json.text]) Json.text?_text _
  simp [ofJson?, hr, Json.Record.required, Json.Record.optional, hi, Bounds.ofJson?_toJson]

end Element

namespace Ref

/-- References whose number fits 64 bits. -/
def Sized : Ref → Prop
  | byId _ nth => nth < 18446744073709551616
  | byPosition index _ => index < 18446744073709551616

instance (r : Ref) : Decidable r.Sized := by
  cases r <;> exact Nat.decLt ..

theorem proper_toJson (r : Ref) : r.toJson.Proper := by
  cases r <;> exact .object (by simp [Json.Proper.text, Json.proper_nat])

theorem sound_toJson {r : Ref} (h : r.Sized) (levels : Nat) :
    Json.sound (levels + 1) r.toJson = true := by
  cases r <;> exact Json.sound_ofMembers (by simp [Json.sound_text, Json.sound_nat h])

theorem ofJson?_toJson {r : Ref} (h : r.Sized) (within : Bool) (levels : Nat) :
    ofJson? within (levels + 1) r.toJson = some r := by
  cases r with
  | byId id nth =>
    have ht : (Ref.byId id nth).toJson.tagged? "by" ["id", "position"] within (levels + 1) =
        some ("id", _) :=
      Json.tagged?_ofMembers (by simp [Json.sound_text, Json.sound_nat h]) (by simp) (by simp)
    have hr : (Json.ofMembers [("id", .text id), ("nth", .nat nth)]).record? ["id", "nth"] =
        some ⟨false, _⟩ := Json.record?_ofMembers (by simp) (by simp)
    simp [ofJson?, ht, hr, Json.Record.required, Json.Record.defaulted, Json.word?_nat h]
  | byPosition index elementClass =>
    have ht : (Ref.byPosition index elementClass).toJson.tagged? "by" ["id", "position"] within
        (levels + 1) = some ("position", _) :=
      Json.tagged?_ofMembers (by simp [Json.sound_text, Json.sound_nat h]) (by simp) (by simp)
    have hr : (Json.ofMembers [("index", .nat index),
        ("element_class", .text elementClass)]).record? ["index", "element_class"] =
        some ⟨false, _⟩ := Json.record?_ofMembers (by simp) (by simp)
    simp [ofJson?, ht, hr, Json.Record.required, Json.word?_nat h]

end Ref

namespace Snapshot

theorem proper_toJson (s : Snapshot) : s.toJson.Proper := by
  apply Json.Proper.object
  simp only [List.mem_singleton, forall_eq]
  exact .array (List.forall_mem_map.mpr fun e _ => e.proper_toJson)

theorem ofJson?_toJson (s : Snapshot) (levels : Nat) : ofJson? (levels + 4) s.toJson = some s := by
  have hr : s.toJson.record? ["elements"] = some ⟨false, _⟩ :=
    Json.record?_ofMembers (by simp) (by simp)
  have he : (s.elements.map Element.toJson).mapM (Element.ofJson? (levels + 2)) = some s.elements :=
    Json.mapM_map fun e _ => e.ofJson?_toJson levels
  simp [ofJson?, hr, Json.Record.required, Json.itemsOf?, he]

end Snapshot

end ScreenAgent
