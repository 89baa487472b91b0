import ScreenAgent.Screen.Snapshot

namespace ScreenAgent

/-- References of the kind by which an element goes: by an identifier, or by its place if it has none. -/
def Ref.Suits : Ref → Element → Prop
  | byId id _, _ => id ≠ ""
  | byPosition .., e => e.identifier = none ∨ e.identifier = some ""

namespace Snapshot

/-- An element is the one that has as many before it with the identifier as are before it. -/
theorem findNth?_countP (id : String) (es : List Element) (i start : Nat) (e : Element)
    (he : es[i]? = some e) (hid : e.identifier = some id) :
    findNth? id ((es.take i).countP fun o => o.identifier == some id) start es =
      some (start + i, e) := by
  induction es generalizing i start with
  | nil => simp at he
  | cons a es ih =>
    cases i with
    | zero =>
      have ha : a = e := by simpa using he
      simp [findNth?, ha, hid]
    | succ i =>
      have hs := ih i (start + 1) (by simpa using he)
      have hi : start + 1 + i = start + (i + 1) := by omega
      rw [hi] at hs
      by_cases ha : a.identifier = some id <;> simp [findNth?, ha, hs]

theorem resolve?_refAt? (s : Snapshot) (i : Nat) (e : Element) (he : s.elements[i]? = some e) :
    ∃ r, s.refAt? i = some r ∧ s.resolve? r = some (i, e) := by
  have hp : s.resolve? (.byPosition i e.elementClass) = some (i, e) := by simp [resolve?, he]
  simp only [refAt?, he, Option.map_some, Option.some.injEq, exists_eq_left']
  cases hid : e.identifier with
  | none => exact hp
  | some id =>
    by_cases hn : id = ""
    · simpa [hn] using hp
    · simpa [hn, resolve?] using findNth?_countP id s.elements i 0 e he hid

theorem findNth?_eq_some_iff {id : String} {nth start k : Nat} {es : List Element} {e : Element} :
    findNth? id nth start es = some (k, e) ↔ ∃ i, k = start + i ∧ es[i]? = some e ∧
      e.identifier = some id ∧ ((es.take i).countP fun o => o.identifier == some id) = nth := by
  constructor
  · intro h
    induction es generalizing nth start with
    | nil => simp [findNth?] at h
    | cons a es ih =>
      by_cases ha : a.identifier = some id
      · cases nth with
        | zero =>
          obtain ⟨rfl, rfl⟩ : start = k ∧ a = e := by simpa [findNth?, ha] using h
          exact ⟨0, rfl, rfl, ha, rfl⟩
        | succ nth =>
          obtain ⟨i, rfl, he, hid, hc⟩ := ih (by simpa [findNth?, ha] using h)
          exact ⟨i + 1, by omega, he, hid, by simp [ha, hc]⟩
      · obtain ⟨i, rfl, he, hid, hc⟩ := ih (by simpa [findNth?, ha] using h)
        exact ⟨i + 1, by omega, he, hid, by simp [ha, hc]⟩
  · rintro ⟨i, rfl, he, hid, rfl⟩
    exact findNth?_countP id es i start e he hid

/-- Of the elements that have the identifier, the one in turn is found. -/
theorem map_resolve?_byId (s : Snapshot) (id : String) (nth : Nat) :
    (s.resolve? (.byId id nth)).map Prod.snd =
      (s.elements.filter fun e => e.identifier == some id)[nth]? := by
  have hs : ∀ (es : List Element) (nth start : Nat), (findNth? id nth start es).map Prod.snd =
      (es.filter fun e => e.identifier == some id)[nth]? := by
    intro es
    induction es with
    | nil => simp [findNth?]
    | cons e es ih =>
      intro nth start
      by_cases he : e.identifier = some id
      · cases nth <;> simp [findNth?, he, ih]
      · simp [findNth?, he, ih]
  exact hs s.elements nth 0

theorem resolve?_byPosition {s : Snapshot} {index i : Nat} {elementClass : String} {e : Element} :
    s.resolve? (.byPosition index elementClass) = some (i, e) ↔
      s.elements[i]? = some e ∧ i = index ∧ e.elementClass = elementClass := by
  simp only [resolve?, Option.map_eq_some_iff, Option.filter_eq_some_iff, beq_iff_eq,
    Prod.mk.injEq]
  constructor
  · rintro ⟨_, ⟨he, hc⟩, rfl, rfl⟩
    exact ⟨he, rfl, hc⟩
  · rintro ⟨he, rfl, hc⟩
    exact ⟨e, ⟨he, hc⟩, rfl, rfl⟩

theorem getElem?_of_resolve? {s : Snapshot} {r : Ref} {i : Nat} {e : Element}
    (h : s.resolve? r = some (i, e)) : s.elements[i]? = some e := by
  cases r with
  | byId id nth =>
    obtain ⟨k, rfl, he, -, -⟩ := findNth?_eq_some_iff.mp h
    rwa [Nat.zero_add]
  | byPosition index elementClass => exact (resolve?_byPosition.mp h).1

theorem suits_of_refAt? {s : Snapshot} {i : Nat} {r : Ref} {e : Element}
    (he : s.elements[i]? = some e) (h : s.refAt? i = some r) : r.Suits e := by
  simp only [refAt?, he, Option.map_some, Option.some.injEq] at h
  cases hid : e.identifier with
  | none =>
    obtain rfl : Ref.byPosition i e.elementClass = r := by simpa [hid] using h
    exact .inl hid
  | some id =>
    by_cases hn : id = ""
    · obtain rfl : Ref.byPosition i e.elementClass = r := by simpa [hid, hn] using h
      exact .inr (hid.trans (congrArg some hn))
    · obtain rfl : Ref.byId id _ = r := by simpa [hid, hn] using h
      exact hn

theorem refAt?_of_suits {s : Snapshot} {r : Ref} {i : Nat} {e : Element}
    (h : s.resolve? r = some (i, e)) (hs : r.Suits e) : s.refAt? i = some r := by
  cases r with
  | byId id nth =>
    have hn : id ≠ "" := hs
    obtain ⟨k, hk, he, hid, hc⟩ := findNth?_eq_some_iff.mp h
    obtain rfl : i = k := by omega
    simp [refAt?, he, hid, hn, hc]
  | byPosition index elementClass =>
    obtain ⟨he, rfl, rfl⟩ := resolve?_byPosition.mp h
    obtain hid | hid : e.identifier = none ∨ e.identifier = some "" := hs
    · simp [refAt?, he, hid]
    · simp [refAt?, he, hid]

theorem refAt?_congr {s s' : Snapshot}
    (h : s.elements.map (fun e => (e.identifier, e.elementClass)) =
      s'.elements.map fun e => (e.identifier, e.elementClass)) (i : Nat) :
    s.refAt? i = s'.refAt? i := by
  have hbefore : ∀ id, (s.elements.take i).countP (fun o => o.identifier == some id) =
      (s'.elements.take i).countP fun o => o.identifier == some id := by
    intro id
    have hc := congrArg (fun tags => (tags.take i).countP fun o => o.1 == some id) h
    simpa only [← List.map_take, List.countP_map, Function.comp_def] using hc
  have hat := congrArg (fun tags => tags[i]?) h
  simp only [List.getElem?_map] at hat
  cases he : s.elements[i]? with
  | none =>
    rw [he] at hat
    have he' := Option.map_eq_none_iff.mp hat.symm
    simp [refAt?, he, he']
  | some e =>
    rw [he] at hat
    obtain ⟨e', he', htag⟩ := Option.map_eq_some_iff.mp hat.symm
    obtain ⟨hid, hclass⟩ := Prod.mk.inj htag
    simp only [refAt?, he, he', Option.map_some, hid, hclass, hbefore]

/-- Elements and the references to them: an element has a reference, which points at it and at no
other; and whatever points at an element is its reference, if it is of the kind by which the element
goes. Past the last element there is none. -/
theorem references_exact (s : Snapshot) :
    (∀ i, i < s.size → ∃ e r, s.elements[i]? = some e ∧ s.refAt? i = some r ∧
      s.resolve? r = some (i, e)) ∧
    (∀ i j r, s.refAt? i = some r → s.refAt? j = some r → i = j) ∧
    (∀ r i e, s.resolve? r = some (i, e) →
      s.elements[i]? = some e ∧ (s.refAt? i = some r ↔ r.Suits e)) ∧
    ∀ i, s.size ≤ i → s.refAt? i = none := by
  have hback : ∀ i r, s.refAt? i = some r → ∃ e, s.resolve? r = some (i, e) := by
    intro i r h
    obtain ⟨e, he, -⟩ := Option.map_eq_some_iff.mp h
    obtain ⟨r', hr', hres⟩ := s.resolve?_refAt? i e he
    obtain rfl : r' = r := Option.some.inj (hr'.symm.trans h)
    exact ⟨e, hres⟩
  refine ⟨?exact, ?distinct, ?converse, ?past⟩
  case exact =>
    intro i hi
    have he : s.elements[i]? = some (s.elements.get ⟨i, hi⟩) := List.getElem?_eq_getElem hi
    obtain ⟨r, hr, hres⟩ := s.resolve?_refAt? i _ he
    exact ⟨_, r, he, hr, hres⟩
  case distinct =>
    intro i j r hi hj
    obtain ⟨d, hd⟩ := hback i r hi
    obtain ⟨e, he⟩ := hback j r hj
    exact congrArg Prod.fst (Option.some.inj (hd.symm.trans he))
  case converse =>
    intro r i e h
    have he := getElem?_of_resolve? h
    exact ⟨he, suits_of_refAt? he, refAt?_of_suits h⟩
  case past =>
    intro i hi
    have he : s.elements[i]? = none := List.getElem?_eq_none hi
    simp [refAt?, he]

-- Rows share an identifier, and one has an empty identifier.
example :
    let row (id : Option String) : Element := ⟨id, "", "Row", default, true, false⟩
    let s : Snapshot := ⟨[row (some "row"), row (some ""), row (some "row"), row none]⟩
    (List.range 5).map s.refAt? = [some (.byId "row" 0), some (.byPosition 1 "Row"),
      some (.byId "row" 1), some (.byPosition 3 "Row"), none] := by
  decide

/-- An element of another snapshot that stands where an element of this one does: with the same
identifier and as many before it that share it, or, for want of an identifier, at the same place with
the same class. -/
inductive InPlaceOf (s : Snapshot) (i : Nat) (d : Element) (live : Snapshot) (j : Nat)
    (e : Element) : Prop
  | byId {id : String} (hn : id ≠ "") (hd : d.identifier = some id) (he : e.identifier = some id)
      (hc : ((live.elements.take j).countP fun o => o.identifier == some id) =
        (s.elements.take i).countP fun o => o.identifier == some id)
  | byPosition (hd : d.identifier.getD "" = "") (hj : j = i)
      (he : e.elementClass = d.elementClass)

theorem resolve?_iff_inPlaceOf {s live : Snapshot} {i j : Nat} {d e : Element} {target : Ref}
    (hd : s.elements[i]? = some d) (ht : s.refAt? i = some target) :
    live.resolve? target = some (j, e) ↔
      live.elements[j]? = some e ∧ s.InPlaceOf i d live j e := by
  by_cases hn : d.identifier.getD "" = ""
  · have hr : target = .byPosition i d.elementClass := by
      simp only [refAt?, hd, Option.map_some, Option.some.injEq] at ht
      cases hid : d.identifier with
      | none => simpa [hid] using ht.symm
      | some id =>
        have hid' : id = "" := by simpa [hid] using hn
        simpa [hid, hid'] using ht.symm
    rw [hr, resolve?_byPosition]
    refine and_congr_right fun _ => ⟨fun h => .byPosition hn h.1 h.2, ?_⟩
    rintro (⟨hid, hd', -, -⟩ | ⟨-, hj, hc⟩)
    · exact absurd (by simpa [hd'] using hn) hid
    · exact ⟨hj, hc⟩
  · obtain ⟨id, hid⟩ : ∃ id, d.identifier = some id := by
      cases hid : d.identifier with
      | none => simp [hid] at hn
      | some id => exact ⟨id, rfl⟩
    have hne : id ≠ "" := by simpa [hid] using hn
    have hr : target = .byId id ((s.elements.take i).countP fun o => o.identifier == some id) := by
      simpa [refAt?, hd, hid, hne] using ht.symm
    rw [hr, resolve?, findNth?_eq_some_iff]
    constructor
    · rintro ⟨_, rfl, he, heid, hc⟩
      rw [Nat.zero_add]
      exact ⟨he, .byId hne hid heid hc⟩
    · rintro ⟨he, hplace⟩
      cases hplace with
      | byId _ hd' heid hc =>
        obtain rfl := Option.some.inj (hid.symm.trans hd')
        exact ⟨j, (Nat.zero_add j).symm, he, heid, hc⟩
      | byPosition hd' => exact absurd hd' hn

end Snapshot

end ScreenAgent
