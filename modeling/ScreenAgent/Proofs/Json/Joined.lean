import ScreenAgent.Proofs.Json.Compact

namespace ScreenAgent.Json

/-- What a reader takes in a number of steps it takes in one step more. -/
def Lasts {α : Type} (reader : Nat → List Char → Option (α × List Char)) (n : Nat) : Prop :=
  ∀ s p, reader n s = some p → reader (n + 1) s = some p

theorem value?_lasts {n : Nat} (hi : Lasts items? n) (hm : Lasts members? n) :
    Lasts value? (n + 1) := by
  intro s p h
  rw [value?] at h ⊢
  generalize skipSpace s = u at h ⊢
  -- only what is in a container takes steps of its own
  split at h
  · exact h
  · exact h
  · exact h
  · exact h
  · rename_i r
    generalize skipSpace r = v at h ⊢
    split at h
    · exact h
    · obtain ⟨q, hq, rfl⟩ := Option.map_eq_some_iff.mp h
      rw [hi _ _ hq]
      rfl
  · rename_i r
    generalize skipSpace r = v at h ⊢
    split at h
    · exact h
    · obtain ⟨q, hq, rfl⟩ := Option.map_eq_some_iff.mp h
      rw [hm _ _ hq]
      rfl
  · exact h

theorem items?_lasts {n : Nat} (hv : Lasts value? n) (hi : Lasts items? n) :
    Lasts items? (n + 1) := by
  intro s p h
  rw [items?] at h ⊢
  obtain ⟨⟨j, r⟩, hj, h⟩ := Option.bind_eq_some_iff.mp h
  rw [hv _ _ hj]
  dsimp only [Option.bind_eq_bind, Option.bind_some] at h ⊢
  split at h
  · obtain ⟨q, hq, h⟩ := Option.bind_eq_some_iff.mp h
    rw [hi _ _ hq]
    exact h
  · exact h
  · cases h

theorem members?_lasts {n : Nat} (hv : Lasts value? n) (hm : Lasts members? n) :
    Lasts members? (n + 1) := by
  intro s p h
  rw [members?] at h ⊢
  split at h
  · obtain ⟨⟨key, r⟩, hk, h⟩ := Option.bind_eq_some_iff.mp h
    rw [hk]
    dsimp only [Option.bind_eq_bind, Option.bind_some] at h ⊢
    split at h
    · obtain ⟨⟨j, r⟩, hj, h⟩ := Option.bind_eq_some_iff.mp h
      rw [hv _ _ hj]
      dsimp only [Option.bind_eq_bind, Option.bind_some] at h ⊢
      split at h
      · obtain ⟨q, hq, h⟩ := Option.bind_eq_some_iff.mp h
        rw [hm _ _ hq]
        exact h
      · exact h
      · cases h
    · cases h
  · cases h

theorem lasts (n : Nat) : Lasts value? n ∧ Lasts items? n ∧ Lasts members? n := by
  induction n with
  | zero => simp [Lasts, value?, items?, members?]
  | succ n ih =>
    obtain ⟨hv, hi, hm⟩ := ih
    exact ⟨value?_lasts hi hm, items?_lasts hv hi, members?_lasts hv hm⟩

theorem value?_add {n : Nat} {s : List Char} {p : Json × List Char} (h : value? n s = some p)
    (k : Nat) : value? (n + k) s = some p := by
  induction k with
  | zero => exact h
  | succ k ih => exact (lasts (n + k)).1 s p ih

/-- However many steps there are, a compact text is taken to its end or not at all. -/
theorem Proper.value?_compact {j : Json} (h : j.Proper) {n : Nat} {p : Json × List Char}
    (hp : value? n (compact j) = some p) : p = (j, []) := by
  have hl := value?_add hp (compact j).length
  have hr := h.readsBack (n + (compact j).length) [] (by omega) ends_nil
  rw [List.append_nil, hl] at hr
  exact Option.some.inj hr

/-- What is left of a text behind a part without an opening brace. -/
def Reaches (s r : List Char) : Prop := ∃ q, s = q ++ r ∧ '\x7b' ∉ q

theorem Reaches.refl (s : List Char) : Reaches s s := ⟨[], rfl, by simp⟩

theorem Reaches.trans {s r t : List Char} (h : Reaches s r) (h' : Reaches r t) : Reaches s t := by
  obtain ⟨q, rfl, hq⟩ := h
  obtain ⟨q', rfl, hq'⟩ := h'
  exact ⟨q ++ q', by simp, by simp [hq, hq']⟩

theorem Reaches.cons {c : Char} (hc : c ≠ '\x7b') (s : List Char) : Reaches (c :: s) s :=
  ⟨[c], rfl, by simpa using hc.symm⟩

theorem Reaches.span_isDigit (s : List Char) : Reaches s (s.span Text.isDigit).2 := by
  rw [List.span_eq_takeWhile_dropWhile]
  refine ⟨s.takeWhile Text.isDigit, List.takeWhile_append_dropWhile.symm, fun h => ?_⟩
  exact absurd (List.mem_takeWhile_imp h) (by decide)

theorem reaches_fraction? {s : List Char} {p : List Char × List Char} (h : fraction? s = some p) :
    Reaches s p.2 := by
  unfold fraction? at h
  split at h
  · rename_i r
    split at h
    · cases h
    · obtain rfl := Option.some.inj h
      exact (Reaches.cons (by decide) r).trans (.span_isDigit r)
  · obtain rfl := Option.some.inj h
    exact .refl _

theorem reaches_exponentDigits? {down : Bool} {s : List Char}
    {p : Option (Bool × List Char) × List Char} (h : exponentDigits? down s = some p) :
    Reaches s p.2 := by
  have hs := Reaches.span_isDigit s
  unfold exponentDigits? at h
  split at h
  · cases h
  · rename_i he
    obtain rfl := Option.some.inj h
    rwa [he] at hs

theorem reaches_exponent? {s : List Char} {p : Option (Bool × List Char) × List Char}
    (h : exponent? s = some p) : Reaches s p.2 := by
  unfold exponent? at h
  split at h
  · rename_i c r
    split at h
    · rename_i hc
      have hb : c ≠ '\x7b' := by
        rintro rfl
        revert hc
        decide
      refine (Reaches.cons hb r).trans ?_
      split at h
      · exact (Reaches.cons (by decide) _).trans (reaches_exponentDigits? h)
      · exact (Reaches.cons (by decide) _).trans (reaches_exponentDigits? h)
      · exact reaches_exponentDigits? h
    · obtain rfl := Option.some.inj h
      exact .refl _
  · obtain rfl := Option.some.inj h
    exact .refl _

theorem reaches_numeral? {s : List Char} {p : Numeral × List Char} (h : numeral? s = some p) :
    Reaches s p.2 := by
  have hsign : Reaches s (if s.head? == some '-' then s.tail else s) := by
    cases s with
    | nil => exact .refl _
    | cons c s =>
      split
      · rename_i hc
        obtain rfl : c = '-' := by simpa using hc
        exact .cons (by decide) s
      · exact .refl _
  have hwhole := Reaches.span_isDigit (if s.head? == some '-' then s.tail else s)
  simp only [numeral?] at h
  generalize List.span Text.isDigit (if s.head? == some '-' then s.tail else s) = w at h hwhole
  split at h
  · cases h
  · obtain ⟨f, hf, h⟩ := Option.bind_eq_some_iff.mp h
    obtain ⟨e, he, h⟩ := Option.bind_eq_some_iff.mp h
    obtain rfl := Option.some.inj h
    exact ((hsign.trans hwhole).trans (reaches_fraction? hf)).trans (reaches_exponent? he)

theorem value?_cases {n : Nat} {s : List Char} {p : Json × List Char}
    (h : value? (n + 1) s = some p) :
    Reaches (skipSpace s) p.2 ∨
    (∃ r q, skipSpace s = '"' :: r ∧ literal? r = some q ∧ q.2 = p.2) ∨
    (∃ r, skipSpace s = '[' :: r ∧
      (skipSpace r = ']' :: p.2 ∨ ∃ q, items? n (skipSpace r) = some q ∧ q.2 = p.2)) ∨
    (∃ r, skipSpace s = '\x7b' :: r ∧
      (skipSpace r = '\x7d' :: p.2 ∨ ∃ q, members? n (skipSpace r) = some q ∧ q.2 = p.2)) := by
  rw [value?] at h
  split at h
  case h_1 r hs =>
    obtain rfl := Option.some.inj h
    exact .inl ⟨['n', 'u', 'l', 'l'], hs, by decide⟩
  case h_2 r hs =>
    obtain rfl := Option.some.inj h
    exact .inl ⟨['t', 'r', 'u', 'e'], hs, by decide⟩
  case h_3 r hs =>
    obtain rfl := Option.some.inj h
    exact .inl ⟨['f', 'a', 'l', 's', 'e'], hs, by decide⟩
  case h_4 r hs =>
    obtain ⟨q, hq, rfl⟩ := Option.map_eq_some_iff.mp h
    exact .inr (.inl ⟨r, q, hs, hq, rfl⟩)
  case h_5 r hs =>
    refine .inr (.inr (.inl ⟨r, hs, ?_⟩))
    split at h
    · rename_i he
      obtain rfl := Option.some.inj h
      exact .inl he
    · obtain ⟨q, hq, rfl⟩ := Option.map_eq_some_iff.mp h
      exact .inr ⟨q, hq, rfl⟩
  case h_6 r hs =>
    refine .inr (.inr (.inr ⟨r, hs, ?_⟩))
    split at h
    · rename_i he
      obtain rfl := Option.some.inj h
      exact .inl he
    · obtain ⟨q, hq, rfl⟩ := Option.map_eq_some_iff.mp h
      exact .inr ⟨q, hq, rfl⟩
  case h_7 =>
    obtain ⟨q, hq, rfl⟩ := Option.map_eq_some_iff.mp h
    exact .inl (reaches_numeral? hq)

theorem items?_cases {n : Nat} {s : List Char} {p : List Json × List Char}
    (h : items? (n + 1) s = some p) :
    ∃ v, value? n s = some v ∧
      (skipSpace v.2 = ']' :: p.2 ∨
        ∃ r q, skipSpace v.2 = ',' :: r ∧ items? n r = some q ∧ q.2 = p.2) := by
  rw [items?] at h
  obtain ⟨⟨j, r⟩, hv, h⟩ := Option.bind_eq_some_iff.mp h
  refine ⟨_, hv, ?_⟩
  dsimp only at h
  split at h
  case h_1 r hr =>
    obtain ⟨q, hq, h⟩ := Option.bind_eq_some_iff.mp h
    obtain rfl := Option.some.inj h
    exact .inr ⟨r, q, hr, hq, rfl⟩
  case h_2 r hr =>
    obtain rfl := Option.some.inj h
    exact .inl hr
  case h_3 => cases h

theorem members?_cases {n : Nat} {s : List Char} {p : List (Option String × Json) × List Char}
    (h : members? (n + 1) s = some p) :
    ∃ r key r' v, skipSpace s = '"' :: r ∧ literal? r = some key ∧ skipSpace key.2 = ':' :: r' ∧
      value? n r' = some v ∧
      (skipSpace v.2 = '\x7d' :: p.2 ∨
        ∃ r q, skipSpace v.2 = ',' :: r ∧ members? n r = some q ∧ q.2 = p.2) := by
  rw [members?] at h
  split at h
  case h_2 => cases h
  rename_i r hs
  obtain ⟨⟨key, rest⟩, hk, h⟩ := Option.bind_eq_some_iff.mp h
  dsimp only at h
  split at h
  case h_2 => cases h
  rename_i r' hr
  obtain ⟨⟨j, rest'⟩, hv, h⟩ := Option.bind_eq_some_iff.mp h
  refine ⟨r, _, r', _, hs, hk, hr, hv, ?_⟩
  dsimp only at h
  split at h
  case h_1 r hr =>
    obtain ⟨q, hq, h⟩ := Option.bind_eq_some_iff.mp h
    obtain rfl := Option.some.inj h
    exact .inr ⟨r, q, hr, hq, rfl⟩
  case h_2 r hr =>
    obtain rfl := Option.some.inj h
    exact .inl hr
  case h_3 => cases h

/-- What stands in an object behind the quote of its first name: with its beginning it is one value
and no more, and the name does not begin like something that separates or ends values. -/
structure Body (x : List Char) : Prop where
  whole : ∀ n p, value? n ('\x7b' :: '"' :: x) = some p → p.2 = []
  plain : ∃ c r, x = c :: r ∧ isSpace c = false ∧ c ∉ [',', ':', ']', '\x7d']

/-- What is left of a text with an object at its end: nothing, or the object without its first quote,
or all of the object. -/
def Behind (x r : List Char) : Prop := r = [] ∨ r = x ∨ '\x7b' :: '"' :: x <:+ r

section

variable {x s : List Char}

theorem Reaches.suffix {r : List Char} (h : Reaches s r) (hs : '\x7b' :: x <:+ s) :
    '\x7b' :: x <:+ r := by
  obtain ⟨t, rfl⟩ := hs
  obtain ⟨q, hs, hq⟩ := h
  obtain ⟨u, rfl, hu⟩ | ⟨u, -, rfl⟩ := List.append_eq_append_iff.mp hs
  · cases u with
    | nil => exact ⟨[], hu⟩
    | cons c u =>
      obtain ⟨rfl, -⟩ := List.cons.inj hu
      simp at hq
  · exact ⟨u, rfl⟩

theorem suffix_of_cons {c : Char} {r : List Char} (hs : '\x7b' :: x <:+ c :: r) (hc : c ≠ '\x7b') :
    '\x7b' :: x <:+ r := (Reaches.cons hc r).suffix hs

theorem suffix_skipSpace (hs : '\x7b' :: x <:+ s) : '\x7b' :: x <:+ skipSpace s := by
  have hr : Reaches s (skipSpace s) := by
    refine ⟨s.takeWhile isSpace, List.takeWhile_append_dropWhile.symm, fun h => ?_⟩
    exact absurd (List.mem_takeWhile_imp h) (by decide)
  exact hr.suffix hs

theorem suffix_of_skipSpace {c : Char} {r : List Char} (hs : '\x7b' :: x <:+ s)
    (h : skipSpace s = c :: r) (hc : c ≠ '\x7b') : '\x7b' :: x <:+ r :=
  suffix_of_cons (h ▸ suffix_skipSpace hs) hc

theorem literalBody_suffix {p : List Char × List Char} (hs : '\x7b' :: '"' :: x <:+ s)
    (h : literalBody s = some p) : p.2 = x ∨ '\x7b' :: '"' :: x <:+ p.2 := by
  fun_induction literalBody s generalizing p with
  | case1 => cases h
  | case2 r =>
    obtain rfl := Option.some.inj h
    exact .inr (suffix_of_cons hs (by decide))
  | case3 c r ih =>
    obtain ⟨q, hq, rfl⟩ := Option.map_eq_some_iff.mp h
    -- the brace may be the character behind a backslash
    obtain hc | hr := List.suffix_cons_iff.mp (suffix_of_cons hs (by decide))
    · obtain ⟨rfl, rfl⟩ := List.cons.inj hc
      obtain rfl := Option.some.inj hq
      exact .inl rfl
    · have hr := ih hr hq
      exact hr
  | case4 c r hq he hc => cases h
  | case5 c r hq he hc ih =>
    obtain ⟨q, hq, rfl⟩ := Option.map_eq_some_iff.mp h
    obtain hc | hr := List.suffix_cons_iff.mp hs
    · obtain ⟨rfl, rfl⟩ := List.cons.inj hc
      obtain rfl := Option.some.inj hq
      exact .inl rfl
    · have hr := ih hr hq
      exact hr

theorem literal?_suffix {p : Option String × List Char} (hs : '\x7b' :: '"' :: x <:+ s)
    (h : literal? s = some p) : p.2 = x ∨ '\x7b' :: '"' :: x <:+ p.2 := by
  obtain ⟨b, hb, h⟩ := Option.bind_eq_some_iff.mp h
  obtain ⟨parts, -, h⟩ := Option.bind_eq_some_iff.mp h
  obtain rfl := Option.some.inj h
  exact literalBody_suffix hs hb

theorem Body.mark (hx : Body x) {r r' : List Char} {c : Char} (h : Behind x r)
    (hr : skipSpace r = c :: r') (hc : c ∈ [',', ':', ']', '\x7d']) : '\x7b' :: '"' :: x <:+ r' := by
  obtain rfl | rfl | hs := h
  · cases hr
  · obtain ⟨d, u, rfl, hs, hd⟩ := hx.plain
    rw [skipSpace_of_isSpace hs] at hr
    obtain ⟨rfl, -⟩ := List.cons.inj hr
    exact absurd hc hd
  · refine suffix_of_skipSpace hs hr ?_
    rintro rfl
    revert hc
    decide

/-- How far the readers get within a number of steps. -/
structure Passes (x : List Char) (n : Nat) : Prop where
  value : ∀ s p, '\x7b' :: '"' :: x <:+ s → value? n s = some p →
    Behind x p.2 ∧ (p.2 = [] → skipSpace s = '\x7b' :: '"' :: x)
  items : ∀ s p, '\x7b' :: '"' :: x <:+ s → items? n s = some p → '\x7b' :: '"' :: x <:+ p.2
  members : ∀ s p, '\x7b' :: '"' :: x <:+ s → members? n s = some p → '\x7b' :: '"' :: x <:+ p.2

theorem Passes.value_succ {n : Nat} (h : Passes x n) (hx : Body x) {p : Json × List Char}
    (hs : '\x7b' :: '"' :: x <:+ s) (hp : value? (n + 1) s = some p) :
    Behind x p.2 ∧ (p.2 = [] → skipSpace s = '\x7b' :: '"' :: x) := by
  by_cases ho : skipSpace s = '\x7b' :: '"' :: x
  · -- the reader is at the object
    rw [← value?_skipSpace, ho] at hp
    exact ⟨.inl (hx.whole _ _ hp), fun _ => ho⟩
  suffices hb : p.2 = x ∨ '\x7b' :: '"' :: x <:+ p.2 by
    refine ⟨.inr hb, fun hn => ?_⟩
    obtain ⟨c, r, rfl, -⟩ := hx.plain
    simp [hn] at hb
  have hs := suffix_skipSpace hs
  obtain hr | ⟨r, q, hc, hq, hr⟩ | ⟨r, hc, hr⟩ | ⟨r, hc, hr⟩ := value?_cases hp
  · exact .inr (hr.suffix hs)
  · rw [hc] at hs
    rw [← hr]
    exact literal?_suffix (suffix_of_cons hs (by decide)) hq
  · rw [hc] at hs
    have hs := suffix_of_cons hs (by decide)
    obtain hr | ⟨q, hq, hr⟩ := hr
    · exact .inr (suffix_of_skipSpace hs hr (by decide))
    · rw [← hr]
      exact .inr (h.items _ _ (suffix_skipSpace hs) hq)
  · -- this is not the brace of the object
    rw [hc] at hs ho
    have hs := (List.suffix_cons_iff.mp hs).resolve_left (Ne.symm ho)
    obtain hr | ⟨q, hq, hr⟩ := hr
    · exact .inr (suffix_of_skipSpace hs hr (by decide))
    · rw [← hr]
      exact .inr (h.members _ _ (suffix_skipSpace hs) hq)

theorem Passes.items_succ {n : Nat} (h : Passes x n) (hx : Body x) {p : List Json × List Char}
    (hs : '\x7b' :: '"' :: x <:+ s) (hp : items? (n + 1) s = some p) :
    '\x7b' :: '"' :: x <:+ p.2 := by
  obtain ⟨v, hv, hr⟩ := items?_cases hp
  have hb := (h.value _ _ hs hv).1
  obtain hr | ⟨r, q, hr, hq, he⟩ := hr
  · exact hx.mark hb hr (by decide)
  · rw [← he]
    exact h.items _ _ (hx.mark hb hr (by decide)) hq

theorem Passes.members_succ {n : Nat} (h : Passes x n) (hx : Body x)
    {p : List (Option String × Json) × List Char} (hs : '\x7b' :: '"' :: x <:+ s)
    (hp : members? (n + 1) s = some p) : '\x7b' :: '"' :: x <:+ p.2 := by
  obtain ⟨r, key, r', v, hc, hk, hr, hv, hl⟩ := members?_cases hp
  -- a name that ends inside the object has no colon behind it
  have hkey := literal?_suffix (suffix_of_skipSpace hs hc (by decide)) hk
  have hb := (h.value _ _ (hx.mark (.inr hkey) hr (by decide)) hv).1
  obtain hl | ⟨r, q, hl, hq, he⟩ := hl
  · exact hx.mark hb hl (by decide)
  · rw [← he]
    exact h.members _ _ (hx.mark hb hl (by decide)) hq

theorem passes (hx : Body x) (n : Nat) : Passes x n := by
  induction n with
  | zero => constructor <;> simp [value?, items?, members?]
  | succ n ih =>
    exact ⟨fun _ _ => ih.value_succ hx, fun _ _ => ih.items_succ hx, fun _ _ => ih.members_succ hx⟩

theorem Body.read? (hx : Body x) (hs : '\x7b' :: '"' :: x <:+ s)
    (ho : skipSpace s ≠ '\x7b' :: '"' :: x) : read? s = none := by
  unfold Json.read?
  split
  · rename_i j r hv
    obtain ⟨hb, hn⟩ := (passes hx _).value _ _ hs hv
    rw [if_neg]
    intro he
    obtain rfl | rfl | hs := hb
    · exact ho (hn rfl)
    · obtain ⟨c, r, rfl, hs, -⟩ := hx.plain
      simp [skipSpace_of_isSpace hs] at he
    · have hr := suffix_skipSpace hs
      simp [he] at hr
  · rfl

end

/-- A name that is spelled as it is and begins with no white space and nothing that separates or ends
values. -/
def PlainName (name : String) : Prop :=
  ∃ c r, name.toList = c :: r ∧ escapedChar c = [c] ∧ isSpace c = false ∧
    c ∉ [',', ':', ']', '\x7d']

theorem Proper.body {name : String} {j : Json} {members : List (String × Json)}
    (h : (ofMembers ((name, j) :: members)).Proper) (hn : PlainName name) :
    ∃ x, compact (ofMembers ((name, j) :: members)) = '\x7b' :: '"' :: x ∧ Body x := by
  obtain ⟨c, r, hname, he, hs, hc⟩ := hn
  obtain ⟨t, ht⟩ := joinWith_first [','] (memberText (name, j)) (members.map memberText)
  obtain ⟨x, hx⟩ : ∃ x, compact (ofMembers ((name, j) :: members)) = '\x7b' :: '"' :: c :: x := by
    rw [compact_ofMembers, List.map_cons, ht]
    simp [memberText, literal, hname, he]
  refine ⟨c :: x, hx, fun n p hp => ?_, c, x, rfl, hs, hc⟩
  rw [← hx] at hp
  rw [h.value?_compact hp]

theorem Proper.skipSpace_compact {j : Json} (h : j.Proper) : skipSpace (compact j) = compact j := by
  obtain ⟨c, r, hc, hs⟩ := compact_begins h
  rw [hc, skipSpace_of_isSpace hs]

theorem Proper.skipSpace_append {j : Json} (h : j.Proper) (t : List Char) :
    skipSpace (t ++ compact j) = skipSpace t ++ compact j := by
  have hc := h.skipSpace_compact
  unfold skipSpace at hc ⊢
  rw [List.dropWhile_append, hc]
  split
  · rename_i ht
    rw [List.isEmpty_iff.mp ht, List.nil_append]
  · rfl

/-- An object is no value together with a text before it. -/
theorem Proper.read?_joined {name : String} {j : Json} {members : List (String × Json)}
    (h : (ofMembers ((name, j) :: members)).Proper) (hn : PlainName name) {t : List Char}
    (ht : skipSpace t ≠ []) : read? (t ++ compact (ofMembers ((name, j) :: members))) = none := by
  have hs := h.skipSpace_append t
  obtain ⟨x, hx, hb⟩ := h.body hn
  rw [hx] at hs ⊢
  exact hb.read? (List.suffix_append ..) (by simpa [hs] using ht)

theorem Proper.read?_blank {j : Json} (h : j.Proper) {t : List Char} (ht : skipSpace t = []) :
    read? (t ++ compact j) = some j := by
  have hg : IsGap t := List.dropWhile_eq_nil_iff.mp ht
  exact (h.readsBack.gap hg).read?

end ScreenAgent.Json
