import ScreenAgent.Hierarchy.Basic
import ScreenAgent.Proofs.Hierarchy.Label

namespace ScreenAgent.Hierarchy

inductive Tree (α : Type)
  | mk (label : α) (children : List (Tree α))

namespace Tree

variable {α : Type}

mutual

def toNode (shown : α → Attributes) : Tree α → Node
  | mk a children => .mk (shown a) (toNodes shown children)

def toNodes (shown : α → Attributes) : List (Tree α) → List Node
  | [] => []
  | t :: ts => t.toNode shown :: toNodes shown ts

end

end Tree

/-- Text in which no tag of a node starts. -/
def Gap (s : List Char) : Prop := ¬ "<node".toList <:+: s ∧ ¬ "</node".toList <:+: s

instance (s : List Char) : Decidable (Gap s) :=
  inferInstanceAs (Decidable (¬ "<node".toList <:+: s ∧ ¬ "</node".toList <:+: s))

/-- The texts of a forest, when it is known what a tag can be for each label. -/
inductive Renders {α : Type} (tag : α → List Char → Prop) : List (Tree α) → List Char → Prop
  | nil {gap : List Char} (hg : Gap gap) : Renders tag [] gap
  | leaf {gap content rest : List Char} {a : α} {more : List (Tree α)} (hg : Gap gap)
      (ha : tag a content) (hm : Renders tag more rest) :
      Renders tag (.mk a [] :: more) (gap ++ ("<node".toList ++ (content ++ '/' :: '>' :: rest)))
  | node {gap content inner rest : List Char} {a : α} {children more : List (Tree α)}
      (hg : Gap gap) (ha : tag a content) (hc : Renders tag children inner)
      (hm : Renders tag more rest) :
      Renders tag (.mk a children :: more)
        (gap ++ ("<node".toList ++ (content ++ '>' :: (inner ++ ("</node>".toList ++ rest)))))

/-- A word does not reach over the end of a text into what begins as the word does, if its first
character comes in it only once. -/
theorem prefix_of_append {c : Char} {w before rest : List Char} (hw : c ∉ w) (hb : before ≠ [])
    (hr : ∀ d ∈ rest.head?, d = c) (h : c :: w <+: before ++ rest) : c :: w <+: before := by
  obtain h' | h' := List.prefix_or_prefix_of_prefix h (List.prefix_append before rest)
  · exact h'
  · obtain ⟨more, hm⟩ := h'
    rw [← hm, List.prefix_append_right_inj] at h
    cases more with
    | nil =>
      rw [List.append_nil] at hm
      rw [hm]
    | cons d more =>
      obtain ⟨rest', rfl⟩ := h
      obtain rfl : d = c := hr d rfl
      obtain ⟨e, before, rfl⟩ := List.exists_cons_of_ne_nil hb
      obtain ⟨-, rfl⟩ := List.cons.inj hm
      exact absurd (by simp) hw

/-- Text between tags is passed over up to the next angle bracket. -/
theorem tags_gap {gap : List Char} (hg : Gap gap) {rest : List Char}
    (hr : ∀ c ∈ rest.head?, c = '<') : tags (gap ++ rest) = tags rest := by
  induction gap with
  | nil => rfl
  | cons c gap ih =>
    have hc : ¬ Begins (c :: (gap ++ rest)) := by
      rintro ⟨t, text, more, hs, ht⟩
      have hp : "<node".toList <+: c :: gap ++ rest ∨ "</node".toList <+: c :: gap ++ rest := by
        rw [List.cons_append, hs]
        exact ht.begins.imp (·.trans (List.prefix_append _ _)) (·.trans (List.prefix_append _ _))
      obtain hp | hp := hp
      · exact hg.1 (prefix_of_append (by decide) (List.cons_ne_nil c gap) hr hp).isInfix
      · exact hg.2 (prefix_of_append (by decide) (List.cons_ne_nil c gap) hr hp).isInfix
    rw [List.cons_append, tags_cons_of_not_begins hc]
    exact ih ⟨fun h => hg.1 (List.infix_cons h), fun h => hg.2 (List.infix_cons h)⟩

/-- What stands in a tag tells what the node shows, whether it has children or not. -/
structure Tells (own : Attributes) (content : List Char) : Prop where
  opening : Tag.Spelled (.opening content) ("<node".toList ++ (content ++ ['>']))
  selfClosing :
    Tag.Spelled (.selfClosing (content ++ ['/'])) ("<node".toList ++ (content ++ ['/'] ++ ['>']))
  opening_attributes : nodeAttributes content = own
  selfClosing_attributes : nodeAttributes (content ++ ['/']) = own

theorem withChildren_nil (n : Node) : n.withChildren [] = n := by
  cases n
  simp [Node.withChildren, Node.own, Node.children]

theorem withChildren_append (n : Node) (a b : List Node) :
    (n.withChildren a).withChildren b = n.withChildren (a ++ b) := by
  simp [Node.withChildren, Node.own, Node.children]

namespace Renders

variable {α : Type} {tag : α → List Char → Prop} {shown : α → Attributes} {forest : List (Tree α)}
  {s : List Char}

/-- The tags of a forest put its nodes into the node that is open before them. -/
theorem foldlM_step (ht : ∀ a content, tag a content → Tells (shown a) content)
    (h : Renders tag forest s) {rest : List Char} (hr : ∀ c ∈ rest.head?, c = '<') :
    ∃ ts, tags (s ++ rest) = ts ++ tags rest ∧ ∀ parent outer,
      ts.foldlM step (parent :: outer) =
        .ok (parent.withChildren (Tree.toNodes shown forest) :: outer) := by
  -- What follows must not continue a gap to the start of a tag, so it is empty or begins with one.
  induction h generalizing rest with
  | nil hg =>
    refine ⟨[], tags_gap hg hr, fun parent outer => ?_⟩
    rw [Tree.toNodes, withChildren_nil]
    rfl
  | @leaf gap content more a forest hg ha hm ih =>
    obtain ⟨ts, hts, hrun⟩ := ih hr
    have htell := ht a content ha
    refine ⟨.selfClosing (content ++ ['/']) :: ts, ?_, fun parent outer => ?_⟩
    · have hs : gap ++ ("<node".toList ++ (content ++ '/' :: '>' :: more)) ++ rest =
          gap ++ ("<node".toList ++ (content ++ ['/'] ++ ['>']) ++ (more ++ rest)) := by simp
      rw [hs, tags_gap hg (by simp), tags_of_begins htell.selfClosing, hts, List.cons_append]
    · rw [List.foldlM_cons, step, attach, htell.selfClosing_attributes]
      refine (hrun _ outer).trans ?_
      rw [withChildren_append]
      rfl
  | @node gap content inner more a children forest hg ha hc hm ihc ihm =>
    -- The children go into the node while it is open; its closing tag puts it into the parent.
    obtain ⟨ts, hts, hrun⟩ := ihm hr
    have hclose : Tag.Spelled .closing ("</node".toList ++ ([] ++ ['>'])) := .closing (by simp)
    have hnode : "</node>".toList = "</node".toList ++ ([] ++ ['>']) := by decide
    obtain ⟨ts', hts', hrun'⟩ := @ihc ("</node>".toList ++ (more ++ rest)) (by simp)
    have htell := ht a content ha
    refine ⟨.opening content :: (ts' ++ .closing :: ts), ?_, fun parent outer => ?_⟩
    · have hs :
          gap ++ ("<node".toList ++ (content ++ '>' :: (inner ++ ("</node>".toList ++ more)))) ++ rest =
            gap ++ ("<node".toList ++ (content ++ ['>']) ++
              (inner ++ ("</node>".toList ++ (more ++ rest)))) := by simp
      rw [hs, tags_gap hg (by simp), tags_of_begins htell.opening, hts', hnode,
        tags_of_begins hclose, hts]
      simp
    · have hopen : step (parent :: outer) (.opening content) =
          .ok (.mk (shown a) [] :: parent :: outer) := by
        rw [step, htell.opening_attributes]
      have hinner := hrun' (.mk (shown a) []) (parent :: outer)
      have houter := hrun (parent.withChildren [.mk (shown a) (Tree.toNodes shown children)]) outer
      rw [withChildren_append] at houter
      rw [List.foldlM_cons, hopen]
      change (ts' ++ .closing :: ts).foldlM step (.mk (shown a) [] :: parent :: outer) = _
      rw [List.foldlM_append, hinner]
      exact houter

theorem read_eq (ht : ∀ a content, tag a content → Tells (shown a) content)
    (h : Renders tag forest s) : read s = .ok (.mk default (Tree.toNodes shown forest)) := by
  obtain ⟨ts, hts, hrun⟩ := @foldlM_step _ _ _ _ _ ht h [] nofun
  have hn : tags [] = [] := rfl
  rw [List.append_nil, hn, List.append_nil] at hts
  rw [read, hts, hrun]
  rfl

end Renders

section Tags

variable {quotes : String → Quote} {fs : List (String × String)} {s blanks : List Char}

/-- Attributes that do not disturb their tag, and white space behind them, make a tag that can be
closed by a slash or left open. -/
theorem Fields.spelled (h : Fields (fun name => Tame (quotes name)) fs s)
    (hn : ∀ f ∈ fs, IsName f.1.toList) (hb : ∀ c ∈ blanks, Text.isBlank c = true) :
    Tag.Spelled (.opening (s ++ blanks)) ("<node".toList ++ (s ++ blanks ++ ['>'])) ∧
      Tag.Spelled (.selfClosing (s ++ blanks ++ ['/']))
        ("<node".toList ++ (s ++ blanks ++ ['/'] ++ ['>'])) := by
  have hc : Content (s ++ blanks) :=
    (h.content hn).append (.of_blanks hb)
  have hw : (s ++ blanks).head?.any Unicode.isWord = false := by
    cases s with
    | nil =>
      cases blanks with
      | nil => rfl
      | cons c blanks => exact Unicode.isWord_of_isBlank (hb c List.mem_cons_self)
    | cons c s => exact Unicode.isWord_of_isBlank (h.head?_blank rfl)
  have hlast : (Text.trimEnd (s ++ blanks)).getLast? ≠ some '/' := by
    rw [Text.trimEnd_blanks hb]
    obtain rfl | ⟨before, quote, rfl⟩ := h.ends_with_quote
    · simp [Text.trimEnd]
    · have hq : ∀ q : Quote, Text.isBlank q.char = false ∧ q.char ≠ '/' := by
        rintro (_ | _) <;> decide
      rw [Text.trimEnd_concat (hq quote).1, List.getLast?_concat]
      simpa using (hq quote).2
  have hw' : (s ++ blanks ++ ['/']).head?.any Unicode.isWord = false := by
    cases hx : s ++ blanks with
    | nil => decide
    | cons c content => simpa [hx] using hw
  have hc' : Content (s ++ blanks ++ ['/']) := hc.append (.plain (by decide) .nil)
  have hslash : Slashed (s ++ blanks ++ ['/']) := ⟨_, [], rfl, List.forall_mem_nil _⟩
  exact ⟨.opening hc hw (mt slashed_iff.mp hlast), .selfClosing hc' hw' hslash⟩

theorem Fields.tells {l : Label} (h : Fields (fun name => Tame (quotes name)) fs s)
    (hn : ∀ f ∈ fs, IsName f.1.toList) (hb : ∀ c ∈ blanks, Text.isBlank c = true)
    (hl : (fs.filter fun f => quotes f.1 = .double).Perm l.fields) :
    Tells l.shown (s ++ blanks) := by
  obtain ⟨ho, hs⟩ := h.spelled hn hb
  have hrest : ∀ rest, (∀ c ∈ rest, isNameChar c = false) → readFields rest = [] := by
    intro rest hr
    have ha := attributes_blanks hr []
    rw [List.append_nil] at ha
    rw [readFields, ha]
    rfl
  have hbn : ∀ c ∈ blanks, isNameChar c = false := fun c hc => isNameChar_of_isBlank (hb c hc)
  refine ⟨ho, hs, Label.nodeAttributes_eq ?_, Label.nodeAttributes_eq ?_⟩
  · rw [h.readFields_eq hn, hrest blanks hbn, List.append_nil]
    exact hl
  · have hbs : ∀ c ∈ blanks ++ ['/'], isNameChar c = false := by
      intro c hc
      obtain hc | hc := List.mem_append.mp hc
      · exact hbn c hc
      · rw [List.mem_singleton.mp hc]
        decide
    rw [List.append_assoc, h.readFields_eq hn, hrest _ hbs, List.append_nil]
    exact hl

end Tags

/-- A tag whose attributes are all in double quotes, in any order, tells of its label. -/
theorem Label.Writes.tells {l : Label} {content : List Char}
    (h : l.Writes (fun _ => Quoted .double) content) : Tells l.shown content := by
  obtain ⟨fs, s, blanks, hp, hf, hb, rfl⟩ := h
  have ht : Fields (fun _ => Tame .double) fs s := hf.mono fun _ _ _ hq => ⟨hq, nofun⟩
  have hn : ∀ f ∈ fs, IsName f.1.toList := fun f hm => l.fields_named f (hp.mem_iff.mp hm)
  exact @Fields.tells (fun _ => .double) _ _ _ _ ht hn hb (by simpa using hp)

/-- Every forest is read back from every dump of it with double quotes. -/
theorem read_rendering {forest : List (Tree Label)} {s : List Char}
    (h : Renders (Label.Writes fun _ => Quoted .double) forest s) :
    read s = .ok (.mk default (Tree.toNodes Label.shown forest)) :=
  h.read_eq fun _ _ => Label.Writes.tells

/-- A field with a button in it, and text around the tags. -/
theorem read_rendering_search :
    read ("<hierarchy>\n<node class=\"EditText\">".toList ++
        "<node bounds=\"[4,2][80,-3]\" text=\"Go &amp; find\" index=\"1\" />".toList ++
        "</node></hierarchy>".toList) =
      .ok (.mk default [.mk { className := some "EditText", editable := true }
        [.mk { text := some "Go & find"
               bounds := ⟨{ val := 4 }, { val := 2 }, { val := 80 }, { val := -3 }⟩ } []]]) := by
  have hfield : Label.Writes (fun _ => Quoted .double) { className := some "EditText" }
      " class=\"EditText\"".toList :=
    ⟨_, _, [], .refl _, .cons space_blank (.of_raw (by decide)) .nil, nofun, by decide⟩
  have htext : Quoted .double "Go & find".toList "\"Go &amp; find\"".toList :=
    ⟨_, .append (.of_raw (v := "Go ".toList) (by decide))
      (.reference (@Refers.name '&' "amp" (by decide)) (.of_raw (v := " find".toList) (by decide))),
      by decide⟩
  have hbutton : Label.Writes (fun _ => Quoted .double)
      { text := some "Go & find"
        bounds := some ⟨{ val := 4 }, { val := 2 }, { val := 80 }, { val := -3 }⟩
        others := [("index", "1")], others_named := by decide }
      " bounds=\"[4,2][80,-3]\" text=\"Go &amp; find\" index=\"1\" ".toList :=
    ⟨[("bounds", "[4,2][80,-3]"), ("text", "Go & find"), ("index", "1")], _, [' '], by decide,
      .cons space_blank (.of_raw (by decide)) <| .cons space_blank htext <|
        .cons space_blank (.of_raw (by decide)) .nil, space_blank.2, by decide⟩
  have hgap : Gap "<hierarchy>\n".toList ∧ Gap [] ∧ Gap "</hierarchy>".toList := by decide
  have hread := read_rendering
    (.node hgap.1 hfield (.leaf hgap.2.1 hbutton (.nil hgap.2.1)) (.nil hgap.2.2))
  refine Eq.trans (congrArg read ?_) (hread.trans ?_)
  · decide
  · rfl

end ScreenAgent.Hierarchy
