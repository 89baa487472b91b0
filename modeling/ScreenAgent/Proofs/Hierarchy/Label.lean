import Mathlib.Data.List.Nodup
import Mathlib.Data.Option.Basic
import ScreenAgent.Proofs.Hierarchy.Fields
import ScreenAgent.Proofs.Json.Record

namespace ScreenAgent.Hierarchy

def cornerText (x y : Coordinate) (rest : List Char) : List Char :=
  '[' :: (Text.ofInt x.val ++ ',' :: (Text.ofInt y.val ++ ']' :: rest))

def boundsText (b : Bounds) : String :=
  String.ofList (cornerText b.left b.top (cornerText b.right b.bottom []))

theorem isDigit_of_ascii {c : Char} (h : c.isDigit = true) : Unicode.isDigit c = true := by
  simp only [Char.isDigit, Bool.and_eq_true, decide_eq_true_eq] at h
  have hl : 48 ≤ c.toNat := h.1
  have hu : c.toNat ≤ 57 := h.2
  rw [Unicode.isDigit, if_pos (by omega)]
  simp [hl, hu]

/-- A number is read up to a character that is no digit. -/
theorem signed?_ofInt (z : Int) {c : Char} (hc : Unicode.isDigit c = false) (s : List Char) :
    signed? (Text.ofInt z ++ c :: s) = some (Text.ofInt z, c :: s) := by
  have hd : (Text.ofNat z.natAbs ++ c :: s).takeWhile Unicode.isDigit = Text.ofNat z.natAbs := by
    rw [List.takeWhile_append_of_pos fun d hd => isDigit_of_ascii (Text.isDigit_of_mem_ofNat hd)]
    simp [hc]
  have hn : Text.ofNat z.natAbs ≠ [] := Nat.toDigits_ne_nil
  rw [Text.ofInt]
  split
  · have hs : ('-' :: (Text.ofNat z.natAbs ++ c :: s)).drop (1 + (Text.ofNat z.natAbs).length) =
        c :: s := by
      rw [Nat.add_comm, List.drop_succ_cons, List.drop_left]
    simp [signed?, hd, hn, hs]
  · have hm : (Text.ofNat z.natAbs ++ c :: s).head? ≠ some '-' := by
      rw [List.head?_append_of_ne_nil _ hn]
      exact Text.head?_ofNat_ne (by decide)
    simp only [signed?, if_neg hm, List.length_nil, List.drop_zero, hd, if_neg hn, List.nil_append,
      Nat.zero_add, List.drop_left]

theorem corner?_eq (x y : Coordinate) (s : List Char) :
    corner? (cornerText x y s) = some ((Text.ofInt x.val, Text.ofInt y.val), s) := by
  have hx := signed?_ofInt x.val (c := ',') (by decide) (Text.ofInt y.val ++ ']' :: s)
  have hy := signed?_ofInt y.val (c := ']') (by decide) s
  simp [corner?, cornerText, hx, hy]

theorem coordinate?_ofInt (c : Coordinate) : coordinate? (Text.ofInt c.val) = some c := by
  rw [coordinate?, Text.integer?_ofInt c.lower c.upper, Option.bind_some, Coordinate.ofInt?,
    dif_pos ⟨c.lower, c.upper⟩]

theorem bounds?_boundsText (b : Bounds) : bounds? (boundsText b).toList = some b := by
  have ha := corner?_eq b.left b.top (cornerText b.right b.bottom [])
  have hb := corner?_eq b.right b.bottom []
  rw [boundsText, String.toList_ofList, bounds?]
  rw [cornerText] at ha ⊢
  simp [corners?, ha, hb, coordinate?_ofInt]

def readNames : List String :=
  ["resource-id", "text", "class", "bounds", "clickable", "long-clickable"]

/-- What a dump says about a node. Of the attributes that are read, each may be missing; the others
have different names. -/
structure Label where
  resourceId : Option String := none
  text : Option String := none
  className : Option String := none
  bounds : Option Bounds := none
  clickable : Option String := none
  longClickable : Option String := none
  others : List (String × String) := []
  others_named : ∀ f ∈ others, IsName f.1.toList ∧ f.1 ∉ readNames := by simp
  others_nodup : (others.map Prod.fst).Nodup := by simp

namespace Label

/-- The attributes that are read, with those that are missing. -/
def known (l : Label) : List (String × Option String) :=
  [("resource-id", l.resourceId), ("text", l.text), ("class", l.className),
    ("bounds", l.bounds.map boundsText), ("clickable", l.clickable),
    ("long-clickable", l.longClickable)]

def fields (l : Label) : List (String × String) :=
  (l.known.filterMap fun p => p.2.map (p.1, ·)) ++ l.others

/-- What the node shows: empty texts are missing, one kind of click will do, and the class tells
whether text can be entered. -/
def shown (l : Label) : Attributes where
  resourceId := l.resourceId.filter (· ≠ "")
  text := l.text.filter (· ≠ "")
  className := l.className.filter (· ≠ "")
  bounds := l.bounds.getD default
  clickable := l.clickable = some "true" ∨ l.longClickable = some "true"
  editable := l.className.any fun c =>
    "EditText".toList <:+: c.toList ∨ "AutoCompleteTextView".toList <:+: c.toList

/-- A label is written as its attributes in any order, with white space behind them. -/
def Writes (writes : String → List Char → List Char → Prop) (l : Label) (content : List Char) :
    Prop :=
  ∃ fs s blanks, fs.Perm l.fields ∧ Fields writes fs s ∧
    (∀ c ∈ blanks, Text.isBlank c = true) ∧ content = s ++ blanks

theorem keys_known (l : Label) : l.known.map Prod.fst = readNames := rfl

theorem keys_nodup (l : Label) : (l.known.map Prod.fst).Nodup := by
  rw [keys_known]
  decide

theorem keys_sublist (ps : List (String × Option String)) :
    ((ps.filterMap fun p => p.2.map (p.1, ·)).map Prod.fst).Sublist (ps.map Prod.fst) := by
  induction ps with
  | nil => exact .slnil
  | cons p ps ih =>
    obtain ⟨name, _ | value⟩ := p
    · exact ih.cons name
    · exact ih.cons_cons name

theorem isName_of_mem_readNames {name : String} (h : name ∈ readNames) : IsName name.toList := by
  revert name
  decide

theorem fields_named (l : Label) : ∀ f ∈ l.fields, IsName f.1.toList := by
  intro f hf
  obtain hf | hf := List.mem_append.mp hf
  · have hk := (keys_sublist l.known).subset (List.mem_map_of_mem hf)
    exact isName_of_mem_readNames hk
  · exact (l.others_named f hf).1

theorem fields_nodup (l : Label) : (l.fields.map Prod.fst).Nodup := by
  rw [fields, List.map_append, List.nodup_append]
  refine ⟨(keys_sublist l.known).nodup l.keys_nodup, l.others_nodup, ?_⟩
  rintro _ hk name ho rfl
  obtain ⟨f, hf, rfl⟩ := List.mem_map.mp ho
  exact (l.others_named f hf).2 ((keys_sublist l.known).subset hk)

end Label

namespace Label

variable {l : Label} {s : List Char}

theorem mem_fields_iff {name value : String} {v : Option String} (h : (name, v) ∈ l.known) :
    (name, value) ∈ l.fields ↔ v = some value := by
  have ho : (name, value) ∉ l.others := by
    intro ho
    have hr : name ∈ l.known.map Prod.fst := List.mem_map_of_mem h
    exact (l.others_named _ ho).2 hr
  have hu : (name, some value) ∈ l.known → v = some value := fun hs =>
    congrArg Prod.snd (List.inj_on_of_nodup_map l.keys_nodup h hs rfl)
  have hk : (name, value) ∈ l.fields ↔ (name, some value) ∈ l.known := by
    simp only [fields, List.mem_append, ho, or_false, List.mem_filterMap, Option.map_eq_some_iff,
      Prod.mk.injEq]
    constructor
    · rintro ⟨⟨_, _⟩, hp, _, rfl, rfl, rfl⟩
      exact hp
    · exact fun hp => ⟨_, hp, value, rfl, rfl, rfl⟩
  rw [hk]
  exact ⟨hu, fun hv => hv ▸ h⟩

theorem value?_eq (hs : (readFields s).Perm l.fields) {name : String} {v : Option String}
    (h : (name, v) ∈ l.known) : value? (attributes s) name = v.map String.toList := by
  have hp : (readFields s).reverse.Perm l.fields := (List.reverse_perm _).trans hs
  have hn : ((readFields s).reverse.map Prod.fst).Nodup :=
    (hp.map Prod.fst).nodup_iff.mpr l.fields_nodup
  have hv : (readFields s).reverse.lookup name = v := by
    -- No name stands twice, so the order in which the fields are read does not matter.
    refine Option.ext fun value => ?_
    rw [Json.lookup_eq_some_iff_mem hn, hp.mem_iff, mem_fields_iff h]
  rw [Hierarchy.value?_eq, hv]

theorem filter_toList (v : Option String) :
    ((v.map String.toList).filter (· ≠ [])).map String.ofList = v.filter (· ≠ "") := by
  cases v with
  | none => rfl
  | some t =>
    by_cases ht : t = ""
    · subst ht
      rfl
    · have hl : t.toList ≠ [] := by simpa using ht
      simp only [Option.map_some, Option.filter_some, hl, ht, ne_eq, not_false_eq_true,
        decide_true, if_true, String.ofList_toList]

theorem any_isEditor (v : Option String) :
    ((v.map String.toList).filter (· ≠ [])).any isEditor = v.any fun c =>
      "EditText".toList <:+: c.toList ∨ "AutoCompleteTextView".toList <:+: c.toList := by
  have hi : ∀ c, isEditor c =
      decide ("EditText".toList <:+: c ∨ "AutoCompleteTextView".toList <:+: c) := by
    intro c
    rw [isEditor, Bool.eq_iff_iff]
    simp only [Bool.or_eq_true, Text.holds_iff, decide_eq_true_eq]
  cases v with
  | none => rfl
  | some t =>
    by_cases ht : t = ""
    · subst ht
      decide
    · have hl : t.toList ≠ [] := by simpa using ht
      simp only [Option.map_some, Option.filter_some, hl, ne_eq, not_false_eq_true, decide_true,
        if_true, Option.any_some, hi]

theorem nodeAttributes_eq (hs : (readFields s).Perm l.fields) : nodeAttributes s = l.shown := by
  have hid : value? (attributes s) "resource-id" = l.resourceId.map String.toList :=
    value?_eq hs (by simp [known])
  have htext : value? (attributes s) "text" = l.text.map String.toList :=
    value?_eq hs (by simp [known])
  have hclass : value? (attributes s) "class" = l.className.map String.toList :=
    value?_eq hs (by simp [known])
  have hbounds : value? (attributes s) "bounds" = (l.bounds.map boundsText).map String.toList :=
    value?_eq hs (by simp [known])
  have hclick : value? (attributes s) "clickable" = l.clickable.map String.toList :=
    value?_eq hs (by simp [known])
  have hlong : value? (attributes s) "long-clickable" = l.longClickable.map String.toList :=
    value?_eq hs (by simp [known])
  have hb : ((l.bounds.map boundsText).map String.toList).bind bounds? = l.bounds := by
    cases l.bounds with
    | none => rfl
    | some b => exact bounds?_boundsText b
  have ht : ∀ v : Option String,
      (v.map String.toList == some "true".toList) = decide (v = some "true") := by
    intro v
    cases v with
    | none => rfl
    | some t =>
      rw [Bool.eq_iff_iff, beq_iff_eq, decide_eq_true_eq, Option.map_some, Option.some.injEq,
        Option.some.injEq, String.toList_inj]
  simp only [nodeAttributes, shown, hid, htext, hclass, hbounds, hclick, hlong, filter_toList,
    any_isEditor, hb, ht, Bool.decide_or]

end Label

end ScreenAgent.Hierarchy
