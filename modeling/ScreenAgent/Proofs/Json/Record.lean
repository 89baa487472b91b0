import ScreenAgent.Json.Record
import ScreenAgent.Proofs.Decimal.Whole
import ScreenAgent.Proofs.Json.Numeral

namespace ScreenAgent.Json

theorem mapM_map {α β : Type} {encode : α → β} {decode : β → Option α} {as : List α}
    (h : ∀ a ∈ as, decode (encode a) = some a) : (as.map encode).mapM decode = some as := by
  induction as with
  | nil => rfl
  | cons a as ih =>
    have hr := ih fun b hb => h b (List.mem_cons_of_mem _ hb)
    simp [h a List.mem_cons_self, hr]

theorem lookup_eq_some_iff_mem {α : Type} {ps : List (String × α)}
    (hn : (ps.map Prod.fst).Nodup) {name : String} {value : α} :
    ps.lookup name = some value ↔ (name, value) ∈ ps := by
  constructor
  · intro h
    obtain ⟨before, rest, rfl, -⟩ := List.lookup_eq_some_iff.mp h
    simp
  · intro h
    obtain ⟨before, rest, rfl⟩ := List.append_of_mem h
    refine List.lookup_eq_some_iff.mpr ⟨before, rest, rfl, fun p hp => ?_⟩
    rw [List.map_append, List.nodup_append] at hn
    simpa using (hn.2.2 _ (List.mem_map_of_mem hp) name (by simp)).symm

theorem record?_ofMembers {names : List String} {members : List (String × Json)}
    (hk : ∀ m ∈ members, m.1 ∈ names) (hn : (members.map Prod.fst).Nodup) :
    (ofMembers members).record? names = some ⟨false, members⟩ := by
  have hm : (members.map fun m => (some m.1, m.2)).mapM
      (fun m : Option String × Json => m.1.map fun k => (k, m.2)) = some members :=
    mapM_map fun _ _ => rfl
  have hf : members.filter (fun m => names.contains m.1) = members :=
    List.filter_eq_self.mpr fun m hm => by simpa using hk m hm
  simp only [ofMembers, record?, hm, Option.bind_eq_bind, Option.bind_some, hf, if_pos hn]

@[simp] theorem field?_self (inOrder : Bool) (name : String) (j : Json) (fields : List (String × Json)) :
    (Record.mk inOrder ((name, j) :: fields)).field? name = some j := by
  simp [Record.field?]

@[simp] theorem field?_other (inOrder : Bool) {name other : String} (h : name ≠ other) (j : Json)
    (fields : List (String × Json)) :
    (Record.mk inOrder ((other, j) :: fields)).field? name =
      (Record.mk inOrder fields).field? name := by
  have hb : (name == other) = false := by simpa using h
  change (match name == other with | true => some j | false => fields.lookup name) = _
  rw [hb]
  rfl

@[simp] theorem field?_nil (inOrder : Bool) (name : String) :
    (Record.mk inOrder []).field? name = none := rfl

/-- Members that leave out some of the fields, but only such as say what is assumed without them. -/
structure Spares (assumed fields members : List (String × Json)) : Prop where
  sublist : members.Sublist fields
  said : ∀ m ∈ fields, m ∉ members → m ∈ assumed

namespace Spares

variable {assumed fields members : List (String × Json)}

theorem all (assumed fields : List (String × Json)) : Spares assumed fields fields :=
  ⟨.refl fields, fun _ hm hn => absurd hm hn⟩

theorem nodup (h : Spares assumed fields members) (hn : (fields.map Prod.fst).Nodup) :
    (members.map Prod.fst).Nodup :=
  (h.sublist.map Prod.fst).nodup hn

/-- What is read of a field is what it holds, whether it is there or left out. -/
theorem defaulted (h : Spares assumed fields members) (hn : (fields.map Prod.fst).Nodup)
    {name : String} {j : Json} (hm : (name, j) ∈ fields) {α : Type} {decode : Json → Option α}
    {a value : α} (hd : decode j = some a) (ha : (name, j) ∈ assumed → a = value) :
    (Record.mk false members).defaulted name value decode = some a := by
  have hl := @lookup_eq_some_iff_mem _ _ (h.nodup hn) name
  by_cases hmem : (name, j) ∈ members
  · have hf : members.lookup name = some j := hl.mpr hmem
    simp [Record.defaulted, Record.field?, hf, hd]
  · have hf : members.lookup name = none := by
      refine Option.eq_none_iff_forall_ne_some.mpr fun k hk => hmem ?_
      have hin := h.sublist.subset (hl.mp hk)
      have hj := (lookup_eq_some_iff_mem hn).mpr hm
      have hk' := (lookup_eq_some_iff_mem hn).mpr hin
      obtain rfl : k = j := Option.some.inj (hk'.symm.trans hj)
      exact hl.mp hk
    rw [ha (h.said _ hm hmem)]
    simp [Record.defaulted, Record.field?, hf]

end Spares

@[simp] theorem text?_text (s : String) : (text s).text? = some s := rfl

@[simp] theorem bool?_bool (b : Bool) : (bool b).bool? = some b := rfl

theorem integer?_int {low high z : Int} (hl : low ≤ z) (hh : z ≤ high) :
    (int z).integer? low high = some z := by
  simp [int, integer?, Numeral.toInt?_ofInt, hl, hh]

theorem word?_nat {n : Nat} (h : n < 18446744073709551616) : (nat n).word? = some n := by
  have hh : (n : Int) ≤ 18446744073709551615 := by omega
  simp [nat, word?, integer?, Numeral.toInt?_ofNat, hh]

theorem nullable_ofOption {α : Type} {encode : α → Json} {decode : Json → Option α}
    (hn : ∀ a, encode a ≠ .null) (hd : ∀ a, decode (encode a) = some a) (o : Option α) :
    nullable decode (ofOption encode o) = some o := by
  cases o with
  | none => rfl
  | some a =>
    rw [ofOption, nullable, hd]
    · rfl
    · exact hn a

theorem sound_nat {n : Nat} (h : n < 18446744073709551616) (levels : Nat) :
    sound levels (nat n) = true := by
  rw [nat, sound]
  exact Decimal.toFloat?_ofNat h false

theorem sound_text (s : String) (levels : Nat) : sound levels (text s) = true := by
  simp [text, sound]

theorem sound_ofMembers {members : List (String × Json)} {levels : Nat}
    (h : ∀ m ∈ members, sound levels m.2 = true) :
    sound (levels + 1) (ofMembers members) = true := by
  have hm : soundMembers levels (members.map fun m => (some m.1, m.2)) = true := by
    induction members with
    | nil => rfl
    | cons m members ih =>
      have hr := ih fun k hk => h k (List.mem_cons_of_mem _ hk)
      simp [soundMembers, h m List.mem_cons_self, hr]
  simp [ofMembers, sound, hm]

theorem tagged?_ofMembers {tag form : String} {forms : List String} {within : Bool} {levels : Nat}
    {fields : List (String × Json)} (hs : ∀ m ∈ fields, sound levels m.2 = true)
    (hf : form ∈ forms) (ht : ∀ m ∈ fields, m.1 ≠ tag) :
    tagged? tag forms within (levels + 1) (ofMembers ((tag, text form) :: fields)) =
      some (form, ofMembers fields) := by
  have hsound : sound (levels + 1) (ofMembers ((tag, text form) :: fields)) = true := by
    apply sound_ofMembers
    intro m hm
    obtain rfl | hm := List.mem_cons.mp hm
    · exact sound_text form levels
    · exact hs m hm
  have ho : ofMembers ((tag, text form) :: fields) =
      .object ((some tag, text form) :: fields.map fun m => (some m.1, m.2)) := rfl
  have hd : ∀ m ∈ fields.map fun m => (some m.1, m.2), (m.1 == some tag) = false := by
    intro m hm
    obtain ⟨k, hk, rfl⟩ := List.mem_map.mp hm
    simpa using ht k hk
  -- the tag is the one member of its name, and taking it out leaves the fields
  have hone : ((some tag, text form) :: fields.map fun m => (some m.1, m.2)).filter
      (fun m => m.1 == some tag) = [(some tag, text form)] := by
    rw [List.filter_cons_of_pos (by simp), List.filter_eq_nil_iff.mpr fun m hm => by simp [hd m hm]]
  have hrest : ((some tag, text form) :: fields.map fun m => (some m.1, m.2)).filter
      (fun m => m.1 != some tag) = fields.map fun m => (some m.1, m.2) := by
    rw [List.filter_cons_of_neg (by simp),
      List.filter_eq_self.mpr fun m hm => by simp only [bne, hd m hm, Bool.not_false]]
  unfold tagged?
  rw [if_pos hsound, ho]
  dsimp only
  rw [hone, hrest]
  simp [text, form?, hf, ofMembers]

end ScreenAgent.Json
