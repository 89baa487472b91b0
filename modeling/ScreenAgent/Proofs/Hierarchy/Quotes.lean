import ScreenAgent.Proofs.Hierarchy.Rendering

namespace ScreenAgent.Hierarchy

namespace Label

def only (keep : String → Bool) (l : Label) : Label where
  resourceId := l.resourceId.filter fun _ => keep "resource-id"
  text := l.text.filter fun _ => keep "text"
  className := l.className.filter fun _ => keep "class"
  bounds := l.bounds.filter fun _ => keep "bounds"
  clickable := l.clickable.filter fun _ => keep "clickable"
  longClickable := l.longClickable.filter fun _ => keep "long-clickable"
  others := l.others.filter fun f => keep f.1
  others_named f hf := l.others_named f (List.mem_filter.mp hf).1
  others_nodup := (List.filter_sublist.map Prod.fst).nodup l.others_nodup

theorem known_only (keep : String → Bool) (l : Label) :
    (l.only keep).known = l.known.map fun p => (p.1, p.2.filter fun _ => keep p.1) := by
  have hb : (l.bounds.filter fun _ => keep "bounds").map boundsText =
      (l.bounds.map boundsText).filter fun _ => keep "bounds" := by
    cases l.bounds with
    | none => rfl
    | some b => cases keep "bounds" <;> rfl
  simp only [known, only, hb, List.map_cons, List.map_nil]

theorem fields_only (keep : String → Bool) (l : Label) :
    (l.only keep).fields = l.fields.filter fun f => keep f.1 := by
  have hk : ∀ ps : List (String × Option String),
      (ps.map fun p => (p.1, p.2.filter fun _ => keep p.1)).filterMap (fun p => p.2.map (p.1, ·)) =
        (ps.filterMap fun p => p.2.map (p.1, ·)).filter fun f => keep f.1 := by
    intro ps
    induction ps with
    | nil => rfl
    | cons p ps ih =>
      obtain ⟨name, _ | value⟩ := p
      · simpa using ih
      · cases h : keep name <;> simpa [Option.filter, h] using ih
  rw [fields, known_only, hk, fields, List.filter_append]
  rfl

/-- A tag with tame attributes tells of what is in double quotes. -/
theorem Writes.tells_only {l : Label} {quotes : String → Quote} {content : List Char}
    (h : l.Writes (fun name => Tame (quotes name)) content) :
    Tells (l.only fun name => quotes name = .double).shown content := by
  obtain ⟨fs, s, blanks, hp, hf, hb, rfl⟩ := h
  have hn : ∀ f ∈ fs, IsName f.1.toList := fun f hm => l.fields_named f (hp.mem_iff.mp hm)
  refine hf.tells hn hb ?_
  rw [fields_only]
  exact hp.filter _

end Label

/-- With tame texts, whatever the quotes of each attribute are, the nodes and their nesting are those
of the forest, and each node shows what its attributes in double quotes say. -/
theorem read_tame {forest : List (Tree (Label × (String → Quote)))} {s : List Char}
    (h : Renders (fun p => p.1.Writes fun name => Tame (p.2 name)) forest s) :
    read s = .ok (.mk default
      (Tree.toNodes (fun p => (p.1.only fun name => p.2 name = .double).shown) forest)) :=
  h.read_eq fun _ _ => Label.Writes.tells_only

/-- Of a button whose text is in single quotes the text is missing, and nothing else. -/
theorem read_tame_button :
    read "<node text='Bob&apos;s' clickable=\"true\"/>".toList =
      .ok (.mk default [.mk { clickable := true } []]) := by
  have htext : Tame .single "Bob's".toList "'Bob&apos;s'".toList :=
    ⟨⟨_, .append (.of_raw (v := "Bob".toList) (by decide))
      (.reference (@Refers.name '\'' "apos" (by decide)) (.of_raw (v := ['s']) (by decide))),
      by decide⟩, by decide⟩
  have htrue : Tame .double "true".toList "\"true\"".toList :=
    ⟨.of_raw (by decide), by decide⟩
  have hbutton : Label.Writes
      (fun name => Tame (if name = "text" then Quote.single else .double))
      { text := some "Bob's", clickable := some "true" }
      " text='Bob&apos;s' clickable=\"true\"".toList :=
    ⟨_, _, [], .refl _, .cons space_blank htext (.cons space_blank htrue .nil), nofun, by decide⟩
  have hgap : Gap [] := by decide
  have hread := @read_tame [.mk (_, _) []] _ (.leaf hgap hbutton (.nil hgap))
  refine Eq.trans (congrArg read ?_) (hread.trans ?_)
  · decide
  · rfl

/-- The tree of a dump does depend on which quotes its attributes are in, even if no text holds an
opening angle bracket: the inch sign in a label takes the node away. -/
theorem quotes_change_tree :
    ¬ ∀ (forest : List (Tree (Label × (String → Quote)))) (s s' : List Char),
      Renders (fun p => p.1.Writes fun name value text =>
        Quoted (p.2 name) value text ∧ '<' ∉ text) forest s →
      Renders (fun p => p.1.Writes fun _ value text =>
        Quoted .double value text ∧ '<' ∉ text) forest s' →
      read s = read s' := by
  intro h
  have hgap : Gap [] := by decide
  have hsingle : Label.Writes
      (fun name value text =>
        Quoted (if name = "text" then Quote.single else .double) value text ∧ '<' ∉ text)
      { text := some "14\" screen", clickable := some "true" }
      " text='14\" screen' clickable=\"true\"".toList :=
    ⟨_, _, [], .refl _, .cons space_blank ⟨.of_raw (by decide), by decide⟩
      (.cons space_blank ⟨.of_raw (by decide), by decide⟩ .nil), nofun, by decide⟩
  have hquot : Quoted .double "14\" screen".toList "\"14&quot; screen\"".toList :=
    ⟨_, .append (.of_raw (v := "14".toList) (by decide))
      (.reference (@Refers.name '"' "quot" (by decide))
        (.of_raw (v := " screen".toList) (by decide))), by decide⟩
  have hdouble : Label.Writes
      (fun _ value text => Quoted .double value text ∧ '<' ∉ text)
      { text := some "14\" screen", clickable := some "true" }
      " text=\"14&quot; screen\" clickable=\"true\"".toList :=
    ⟨_, _, [], .refl _, .cons space_blank ⟨hquot, by decide⟩
      (.cons space_blank ⟨.of_raw (by decide), by decide⟩ .nil), nofun, by decide⟩
  have heq := h [.mk (_, _) []] _ _
    (.leaf hgap hsingle (.nil hgap)) (.leaf hgap hdouble (.nil hgap))
  have hs : read "<node text='14\" screen' clickable=\"true\"/>".toList =
      .ok (.mk default []) := rfl
  have hd : read "<node text=\"14&quot; screen\" clickable=\"true\"/>".toList =
      .ok (.mk default [.mk { text := some "14\" screen", clickable := true } []]) := rfl
  cases hs.symm.trans (heq.trans hd)

end ScreenAgent.Hierarchy
