import ScreenAgent.Proofs.Hierarchy.Spelling

namespace ScreenAgent.Hierarchy

/-- A reference to some character stands at the start of a text. -/
def BeginsReference (s : List Char) : Prop :=
  ∃ c r rest, Refers c r ∧ s = '&' :: (r ++ ';' :: rest)

/-- What a text becomes in one pass. Nothing that is put in is looked at again. -/
inductive Replaced : (s result : List Char) → Prop
  | nil : Replaced [] []
  | reference {c : Char} {r s t : List Char} (hr : Refers c r) (h : Replaced s t) :
      Replaced ('&' :: (r ++ ';' :: s)) (c :: t)
  | kept {c : Char} {s t : List Char} (hn : ¬ BeginsReference (c :: s)) (h : Replaced s t) :
      Replaced (c :: s) (c :: t)

/-- Where the one of two texts ends and the other begins, a reference is cut in two. -/
def Straddles (a b : List Char) : Prop :=
  ∃ c r before first last after, Refers c r ∧ first ++ last = '&' :: (r ++ [';']) ∧ first ≠ [] ∧
    last ≠ [] ∧ a = before ++ first ∧ b = last ++ after

theorem scalar?_eq_some {n : Nat} {c : Char} (h : scalar? n = some c) : n = c.toNat := by
  rw [scalar?] at h
  split at h
  · rename_i hn
    obtain rfl := Option.some.inj h
    rw [Char.ofNat, dif_pos hn]
    rfl
  · cases h

theorem refers_iff {c : Char} {r : List Char} : Refers c r ↔ named? r = some c := by
  refine ⟨Refers.named?_eq, fun h => ?_⟩
  fun_cases named? r with
  | case1 => exact Option.some.inj h ▸ @Refers.name _ "amp" (by decide)
  | case2 => exact Option.some.inj h ▸ @Refers.name _ "lt" (by decide)
  | case3 => exact Option.some.inj h ▸ @Refers.name _ "gt" (by decide)
  | case4 => exact Option.some.inj h ▸ @Refers.name _ "quot" (by decide)
  | case5 => exact Option.some.inj h ▸ @Refers.name _ "apos" (by decide)
  | case6 digits =>
    obtain ⟨n, hn, hc⟩ := Option.bind_eq_some_iff.mp h
    obtain ⟨zeros, hd⟩ := Text.hexadecimal?_eq_some_iff.mp hn
    exact .hexadecimal (scalar?_eq_some hc ▸ hd)
  | case7 digits hx =>
    have hhead : digits.head? ≠ some 'x' := by
      intro hhead
      obtain ⟨rest, hrest⟩ := List.head?_eq_some_iff.mp hhead
      exact hx rest hrest
    rw [named?_decimal hhead] at h
    obtain ⟨n, hn, hc⟩ := Option.bind_eq_some_iff.mp h
    obtain ⟨zeros, rfl⟩ := Text.decimal?_eq_some_iff.mp hn
    exact scalar?_eq_some hc ▸ .decimal zeros
  | case8 => simp_all [named?]

theorem refers_of_reference? {s : List Char} {c : Char} {size : Nat}
    (h : reference? s = some (c, size)) : ∃ r rest, Refers c r ∧ s = r ++ ';' :: rest := by
  rw [reference?] at h
  split at h
  · rename_i hsemi
    obtain ⟨d, hd, hcd⟩ := Option.map_eq_some_iff.mp h
    obtain rfl : d = c := congrArg Prod.fst hcd
    obtain ⟨hl, hs⟩ := List.getElem?_eq_some_iff.mp hsemi
    have hrest := List.drop_eq_getElem_cons hl
    rw [hs] at hrest
    refine ⟨_, s.drop ((s.takeWhile (· != ';')).length + 1), refers_iff.mpr hd, ?_⟩
    rw [← hrest]
    exact (List.prefix_iff_eq_append.mp (List.takeWhile_prefix _)).symm
  · cases h

theorem beginsReference_cons {c : Char} {r : List Char} (h : Refers c r) (s : List Char) :
    BeginsReference ('&' :: (r ++ ';' :: s)) :=
  ⟨c, r, s, h, rfl⟩

theorem unescape_kept {c : Char} {s : List Char} (h : ¬ BeginsReference (c :: s)) :
    unescape (c :: s) = c :: unescape s := by
  by_cases hc : c = '&'
  · subst hc
    have hnone : reference? s = none := by
      refine Option.eq_none_iff_forall_ne_some.mpr fun ⟨d, size⟩ hp => h ?_
      obtain ⟨r, rest, hr, rfl⟩ := refers_of_reference? hp
      exact beginsReference_cons hr rest
    rw [unescape, unescapeFrom, if_pos rfl, hnone]
    rfl
  · exact unescape_cons hc s

theorem Replaced.unescape_eq {s t : List Char} (h : Replaced s t) : unescape s = t := by
  induction h with
  | nil => rfl
  | reference hr _ ih => rw [unescape_reference hr, ih]
  | kept hn _ ih => rw [unescape_kept hn, ih]

theorem replaced_unescape (s : List Char) : Replaced s (unescape s) := by
  -- behind a reference the pass goes on with what is left, so the induction is on the length
  induction hl : s.length using Nat.strongRecOn generalizing s with
  | _ n ih =>
    subst hl
    cases s with
    | nil => exact .nil
    | cons d s =>
      by_cases h : BeginsReference (d :: s)
      · obtain ⟨c, r, rest, hr, hs⟩ := h
        rw [hs, unescape_reference hr]
        refine .reference hr (ih _ ?_ rest rfl)
        rw [hs]
        simp only [List.length_cons, List.length_append]
        omega
      · rw [unescape_kept h]
        exact .kept h (ih _ (Nat.lt_succ_self _) s rfl)

theorem unescape_eq_iff {s t : List Char} : unescape s = t ↔ Replaced s t :=
  ⟨fun h => h ▸ replaced_unescape s, Replaced.unescape_eq⟩

theorem Straddles.cons {a b : List Char} (h : Straddles a b) (d : Char) : Straddles (d :: a) b := by
  obtain ⟨c, r, before, first, last, after, hr, hcut, hf, hl, rfl, rfl⟩ := h
  exact ⟨c, r, d :: before, first, last, after, hr, hcut, hf, hl, rfl, rfl⟩

theorem Straddles.append {a b : List Char} (h : Straddles a b) (p : List Char) :
    Straddles (p ++ a) b := by
  induction p with
  | nil => exact h
  | cons d p ih => exact ih.cons d

/-- A reference at the start of two texts is in the first, or it is cut. -/
theorem BeginsReference.of_append {a b : List Char} (h : BeginsReference (a ++ b)) (ha : a ≠ [])
    (hs : ¬ Straddles a b) : BeginsReference a := by
  obtain ⟨c, r, rest, hr, hab⟩ := h
  have hwhole : a ++ b = ('&' :: (r ++ [';'])) ++ rest := by simpa using hab
  obtain ⟨more, hmore, hrest⟩ | ⟨last, hlast, hb⟩ := List.append_eq_append_iff.mp hwhole
  · by_cases hm : more = []
    · subst hm
      exact ⟨c, r, [], hr, by simpa using hmore.symm⟩
    · exact absurd ⟨c, r, [], a, more, rest, hr, hmore.symm, ha, hm, rfl, hrest⟩ hs
  · exact ⟨c, r, last, hr, by simpa using hlast⟩

theorem unescape_append {a b : List Char} (h : ¬ Straddles a b) :
    unescape (a ++ b) = unescape a ++ unescape b := by
  induction hl : a.length using Nat.strongRecOn generalizing a with
  | _ n ih =>
    subst hl
    cases a with
    | nil => rfl
    | cons d a =>
      by_cases hd : BeginsReference (d :: a)
      · obtain ⟨c, r, rest, hr, ha⟩ := hd
        rw [ha] at h ⊢
        have hrest : ¬ Straddles rest b := by
          intro hs
          have happ := hs.append ('&' :: (r ++ [';']))
          exact h (by simpa using happ)
        have hshort : rest.length < (d :: a).length := by
          rw [ha]
          simp only [List.length_cons, List.length_append]
          omega
        have hih := ih _ hshort hrest rfl
        rw [List.cons_append, List.append_assoc, List.cons_append, unescape_reference hr,
          unescape_reference hr, hih, List.cons_append]
      · have hab : ¬ BeginsReference (d :: (a ++ b)) := fun hb =>
          hd (BeginsReference.of_append hb (List.cons_ne_nil d a) h)
        have hih := ih _ (Nat.lt_succ_self _) (fun hs => h (hs.cons d)) rfl
        rw [List.cons_append, unescape_kept hab, unescape_kept hd, hih, List.cons_append]

theorem not_straddles_ampersand (a b : List Char) : ¬ Straddles a ('&' :: b) := by
  rintro ⟨c, r, before, first, last, after, hr, hcut, hf, hl, -, hb⟩
  obtain ⟨d, first, rfl⟩ := List.exists_cons_of_ne_nil hf
  obtain ⟨e, last, rfl⟩ := List.exists_cons_of_ne_nil hl
  obtain rfl : '&' = e := (List.cons.inj hb).1
  have hmem : '&' ∈ r ++ [';'] := by
    rw [← (List.cons.inj hcut).2]
    simp
  have hr' := hr.not_mem (d := '&') (by decide)
  simp [hr'] at hmem

/-- Any text becomes what it becomes in one pass from left to right. A reference gives its character,
wherever it stands, and what is before and behind it becomes what it would by itself. A text in which no
reference stands is left as it is. Two parts of a text can be taken one by one unless a reference is cut
in two between them. -/
theorem replaces_once (s : List Char) :
    (∀ t, unescape s = t ↔ Replaced s t) ∧
    (∀ before c r after, Refers c r → s = before ++ '&' :: (r ++ ';' :: after) →
      unescape s = unescape before ++ c :: unescape after) ∧
    ((∀ before rest, s = before ++ rest → ¬ BeginsReference rest) → unescape s = s) ∧
    (∀ a b, s = a ++ b → ¬ Straddles a b → unescape s = unescape a ++ unescape b) := by
  refine ⟨fun t => unescape_eq_iff, ?_, fun h => ?_, ?_⟩
  · rintro before c r after hr rfl
    rw [unescape_append (not_straddles_ampersand _ _), unescape_reference hr]
  · rw [unescape_eq_iff]
    induction s with
    | nil => exact .nil
    | cons d s ih =>
      refine .kept (h [] _ rfl) (ih fun before rest hs => h (d :: before) rest ?_)
      rw [hs]
      rfl
  · rintro a b rfl h
    exact unescape_append h

/-- What is put in is not read again, and what refers to no character is kept: an ampersand by itself,
names in other cases, halves of surrogate pairs, numbers too large, digits of other scripts, and a
reference without its end. -/
example : unescape "&&amp;lt; &#38;#60; &#x0041; &AMP;&#X41;&#xD800;&#1114112;&#٣;&#x100000041;&gt".toList =
    "&&lt; &#60; A &AMP;&#X41;&#xD800;&#1114112;&#٣;&#x100000041;&gt".toList := by
  decide

end ScreenAgent.Hierarchy
