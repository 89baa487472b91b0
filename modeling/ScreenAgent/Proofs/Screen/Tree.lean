import ScreenAgent.Proofs.Json.Indented
import ScreenAgent.Proofs.Screen.Encoding
import ScreenAgent.Screen.Node

namespace ScreenAgent.Node

mutual

def depth : Node → Nat
  | mk _ children => 1 + depthAll children

def depthAll : List Node → Nat
  | [] => 0
  | n :: r => max n.depth (depthAll r)

end

def fields (own : Attributes) (children : List Json) : List (String × Json) :=
  [("resource_id", .ofOption .text own.resourceId), ("text", .ofOption .text own.text),
    ("class_name", .ofOption .text own.className), ("bounds", own.bounds.toJson),
    ("clickable", .bool own.clickable), ("editable", .bool own.editable),
    ("children", .array children)]

theorem toJson_mk (own : Attributes) (children : List Node) :
    toJson (mk own children) = .ofMembers (fields own (toJsonAll children)) := rfl

mutual

/-- The ways to write a tree: in every node, fields may be left out that hold what those of an empty
node do. -/
inductive Writes : Node → Json → Prop
  | node {own : Attributes} {children : List Node} {items : List Json}
      {members : List (String × Json)} (hc : WritesAll children items)
      (hm : Json.Spares (fields {} []) (fields own items) members) :
      Writes (mk own children) (.ofMembers members)

inductive WritesAll : List Node → List Json → Prop
  | nil : WritesAll [] []
  | cons {n : Node} {j : Json} {r : List Node} {items : List Json} (hn : Writes n j)
      (hr : WritesAll r items) : WritesAll (n :: r) (j :: items)

end

mutual

theorem writes_toJson : (n : Node) → n.Writes n.toJson
  | mk own children => .node (writesAll_toJsonAll children) (.all (fields {} []) (fields own _))

theorem writesAll_toJsonAll : (ns : List Node) → WritesAll ns (toJsonAll ns)
  | [] => .nil
  | n :: r => .cons (writes_toJson n) (writesAll_toJsonAll r)

end

-- An empty object is a node of which nothing is said.
example : (default : Node).Writes (.ofMembers []) :=
  .node .nil ⟨List.nil_sublist _, fun _ hm _ => hm⟩

theorem fields_nodup (own : Attributes) (items : List Json) :
    ((fields own items).map Prod.fst).Nodup := by
  simp [fields]

theorem fields_named (own : Attributes) (items : List Json) :
    ∀ m ∈ fields own items, m.1 ∈ ["resource_id", "text", "class_name", "bounds", "clickable",
      "editable", "children"] := by
  simp [fields]

theorem nullable_text (t : Option String) :
    Json.nullable Json.text? (Json.ofOption Json.text t) = some t :=
  Json.nullable_ofOption (by simp [Json.text]) Json.text?_text t

theorem ofOption_inj {t : Option String}
    (h : Json.ofOption Json.text t = Json.ofOption Json.text none) : t = none := by
  cases t with
  | none => rfl
  | some s => cases h

theorem bounds_inj {b c : Bounds} (h : b.toJson = c.toJson) : b = c := by
  have hb := b.ofJson?_toJson 0
  have hc := c.ofJson?_toJson 0
  rw [h] at hb
  exact Option.some.inj (hb.symm.trans hc)

theorem record?_members {own : Attributes} {items : List Json} {members : List (String × Json)}
    (h : Json.Spares (fields {} []) (fields own items) members) :
    (Json.ofMembers members).record? ["resource_id", "text", "class_name", "bounds", "clickable",
      "editable", "children"] = some ⟨false, members⟩ :=
  Json.record?_ofMembers (fun m hm => fields_named own items m (h.sublist.subset hm))
    (h.nodup (fields_nodup own items))

theorem ofJsonWith?_members {own : Attributes} {items : List Json}
    {members : List (String × Json)} (h : Json.Spares (fields {} []) (fields own items) members)
    (levels : Nat) (children? : Json → Option (List Node)) :
    ofJsonWith? (levels + 1) children? (.ofMembers members) =
      ((Json.Record.mk false members).defaulted "children" [] children?).map (mk own) := by
  have hn := fields_nodup own items
  have htext : ∀ name t, (name, Json.ofOption Json.text t) ∈ fields own items →
      ((name, Json.ofOption Json.text t) ∈ fields {} [] → t = none) →
      (Json.Record.mk false members).defaulted name none (Json.nullable Json.text?) = some t :=
    fun name t hm ha => h.defaulted hn hm (nullable_text t) ha
  have hbool : ∀ name b, (name, Json.bool b) ∈ fields own items →
      ((name, Json.bool b) ∈ fields {} [] → b = false) →
      (Json.Record.mk false members).defaulted name false Json.bool? = some b :=
    fun name b hm ha => h.defaulted hn hm (Json.bool?_bool b) ha
  have hbounds : (Json.Record.mk false members).defaulted "bounds" default
      (Bounds.ofJson? (levels + 1)) = some own.bounds :=
    h.defaulted hn (by simp [fields]) (own.bounds.ofJson?_toJson levels) fun hm =>
      bounds_inj (by simpa [fields] using hm)
  have hid := htext "resource_id" own.resourceId (by simp [fields])
    fun hm => ofOption_inj (by simpa [fields] using hm)
  have htxt := htext "text" own.text (by simp [fields])
    fun hm => ofOption_inj (by simpa [fields] using hm)
  have hclass := htext "class_name" own.className (by simp [fields])
    fun hm => ofOption_inj (by simpa [fields] using hm)
  have hclick := hbool "clickable" own.clickable (by simp [fields])
    fun hm => by simpa [fields] using hm
  have hedit := hbool "editable" own.editable (by simp [fields])
    fun hm => by simpa [fields] using hm
  simp only [ofJsonWith?, record?_members h, hid, htxt, hclass, hbounds, hclick, hedit,
    Option.bind_eq_bind, Option.bind_some]
  exact (Option.map_eq_bind ..).symm

mutual

theorem Writes.proper {n : Node} {j : Json} (h : n.Writes j) : j.Proper := by
  cases n with
  | mk own children =>
    cases h with
    | @node _ _ items members hc hm =>
      have hi := WritesAll.proper hc
      have hf : ∀ m ∈ fields own items, m.2.Proper := by
        simp [fields, Json.proper_ofOption Json.Proper.text, own.bounds.proper_toJson,
          Json.Proper.bool, Json.Proper.array hi]
      exact .object fun m hmem => hf m (hm.sublist.subset hmem)

theorem WritesAll.proper {ns : List Node} {items : List Json} (h : WritesAll ns items) :
    ∀ j ∈ items, j.Proper := by
  cases ns with
  | nil =>
    cases h
    simp
  | cons n r =>
    cases h with
    | cons hn hr =>
      have h1 := Writes.proper hn
      have h2 := WritesAll.proper hr
      simpa using ⟨h1, h2⟩

end

mutual

theorem Writes.ofJson? {n : Node} {j : Json} (h : n.Writes j) (levels : Nat)
    (hl : 2 * n.depth ≤ levels) : Node.ofJson? levels j = some n := by
  cases n with
  | mk own children =>
    cases h with
    | @node _ _ items members hc hm =>
      rw [depth] at hl
      obtain ⟨inner, rfl⟩ : ∃ k, levels = k + 2 := ⟨levels - 2, by omega⟩
      have hi := WritesAll.ofJson? hc inner (by omega)
      have hempty : items = [] → children = [] := by
        rintro rfl
        cases hc
        rfl
      rw [Node.ofJson?, ofJsonWith?_members hm,
        hm.defaulted (j := .array items) (fields_nodup own items) (by simp [fields]) hi
          fun ha => hempty (by simpa [fields] using ha)]
      rfl

theorem WritesAll.ofJson? {ns : List Node} {items : List Json} (h : WritesAll ns items)
    (levels : Nat) (hl : 2 * depthAll ns ≤ levels) :
    items.mapM (Node.ofJson? levels) = some ns := by
  cases ns with
  | nil =>
    cases h
    rfl
  | cons n r =>
    cases h with
    | cons hn hr =>
      rw [depthAll] at hl
      have h1 := Writes.ofJson? hn levels (by omega)
      have h2 := WritesAll.ofJson? hr levels (by omega)
      simp [h1, h2]

end

mutual

/-- A tree that has not room enough is refused. -/
theorem ofJson?_toJson_of_lt (n : Node) (levels : Nat) (hl : levels < 2 * n.depth) :
    ofJson? levels n.toJson = none := by
  cases n with
  | mk own children =>
    rw [depth] at hl
    match levels with
    | 0 => rfl
    | 1 =>
      have hr := record?_members (.all (fields {} []) (fields own (toJsonAll children)))
      -- the bounds are there, and there is no level left for them
      rw [toJson_mk, ofJson?, ofJsonWith?, hr]
      simp [Json.Record.defaulted, fields, Bounds.ofJson?]
    | inner + 2 =>
      have hc := mapM_toJsonAll_of_lt children inner (by omega)
      rw [toJson_mk, ofJson?, ofJsonWith?_members (.all (fields {} []) _)]
      simp [fields, Json.Record.defaulted, hc]

theorem mapM_toJsonAll_of_lt (ns : List Node) (levels : Nat) (hl : levels < 2 * depthAll ns) :
    (toJsonAll ns).mapM (ofJson? levels) = none := by
  cases ns with
  | nil => simp [depthAll] at hl
  | cons n r =>
    rw [depthAll] at hl
    by_cases hn : levels < 2 * n.depth
    · simp [toJsonAll, ofJson?_toJson_of_lt n levels hn]
    · have hr := mapM_toJsonAll_of_lt r levels (by omega)
      have h1 := (writes_toJson n).ofJson? levels (by omega)
      simp [toJsonAll, h1, hr]

end

def ofText? (text : String) : Option Node :=
  (Json.ofString? text).bind (ofJson? Json.levelLimit)

/-- A tree of at most 63 levels is read back from any text of it, compact or indented, whatever fields
are left out that say no more than if they were missing; and one of the texts leaves out none. A deeper
tree is not read from its text at all. -/
theorem reads_as_deep (n : Node) :
    (n.depth ≤ 63 → ∀ j, n.Writes j →
      ofText? j.toCompact = some n ∧ ofText? j.toIndented = some n) ∧
    n.Writes n.toJson ∧
    (63 < n.depth → ofText? n.toJson.toCompact = none ∧ ofText? n.toJson.toIndented = none) := by
  have hread : ∀ j, n.Writes j → ofText? j.toCompact = ofJson? Json.levelLimit j ∧
      ofText? j.toIndented = ofJson? Json.levelLimit j := by
    intro j h
    have hc := h.proper.read?_compact
    have hi := h.proper.read?_indented
    constructor
    · rw [ofText?, Json.ofString?, Json.toCompact, String.toList_ofList, hc, Option.bind_some]
    · rw [ofText?, Json.ofString?, Json.toIndented, String.toList_ofList, hi, Option.bind_some]
  have hlimit : Json.levelLimit = 127 := rfl
  refine ⟨fun hd j h => ?_, n.writes_toJson, fun hd => ?_⟩
  · have hj := h.ofJson? Json.levelLimit (by omega)
    obtain ⟨hc, hi⟩ := hread j h
    exact ⟨hc.trans hj, hi.trans hj⟩
  · have hj := n.ofJson?_toJson_of_lt Json.levelLimit (by omega)
    obtain ⟨hc, hi⟩ := hread _ n.writes_toJson
    exact ⟨hc.trans hj, hi.trans hj⟩

end ScreenAgent.Node
