import Mathlib.Data.List.TakeWhile
import ScreenAgent.Hierarchy.Tag
import ScreenAgent.Proofs.Text.Search

namespace ScreenAgent.Hierarchy

/-- What can stand in a tag: quotes with anything but quotes between them, and any other characters
but the angle bracket that ends the tag. -/
inductive Content : List Char → Prop
  | nil : Content []
  | plain {c : Char} {s : List Char} (hc : c ≠ '>' ∧ c ≠ '"') (h : Content s) : Content (c :: s)
  | quoted {q s : List Char} (hq : '"' ∉ q) (h : Content s) : Content ('"' :: (q ++ '"' :: s))

theorem Content.of_quote {s : List Char} (h : Content ('"' :: s)) :
    ∃ q r, s = q ++ '"' :: r ∧ '"' ∉ q ∧ Content r := by
  cases h with
  | plain hc _ => exact absurd rfl hc.2
  | quoted hq h => exact ⟨_, _, rfl, hq, h⟩

theorem contentSize?_quoted {q : List Char} (hq : '"' ∉ q) (before : Nat) (s : List Char) :
    contentSize? true before (q ++ '"' :: s) = contentSize? false (before + q.length + 1) s := by
  induction q generalizing before with
  | nil => simp [contentSize?]
  | cons c q ih =>
    have hc : c ≠ '"' := fun h => hq (by simp [h])
    have hq : '"' ∉ q := fun h => hq (List.mem_cons_of_mem c h)
    have hn : before + 1 + q.length + 1 = before + (c :: q).length + 1 := by
      simp only [List.length_cons]
      omega
    simpa [contentSize?, hc, hn] using ih hq (before + 1)

theorem Content.contentSize?_eq {content : List Char} (h : Content content) (before : Nat)
    (rest : List Char) :
    contentSize? false before (content ++ '>' :: rest) = some (before + content.length) := by
  induction h generalizing before with
  | nil => simp [contentSize?]
  | @plain c s hc h ih =>
    have hn : before + 1 + s.length = before + (c :: s).length := by
      simp only [List.length_cons]
      omega
    simpa [contentSize?, hc.1, hc.2, hn] using ih (before + 1)
  | @quoted q s hq h ih =>
    have hn : before + 1 + q.length + 1 + s.length = before + ('"' :: (q ++ '"' :: s)).length := by
      simp only [List.length_cons, List.length_append]
      omega
    have hs := contentSize?_quoted hq (before + 1) (s ++ '>' :: rest)
    rw [ih, hn] at hs
    simpa [contentSize?] using hs

/-- Between quotes, the content so far is to be read with the quote that has been opened. -/
theorem content_of_contentSize? {quoted : Bool} {before n : Nat} {s : List Char}
    (h : contentSize? quoted before s = some n) :
    ∃ content rest, s = content ++ '>' :: rest ∧ n = before + content.length ∧
      Content (if quoted then '"' :: content else content) := by
  induction s generalizing quoted before with
  | nil => simp [contentSize?] at h
  | cons c r ih =>
    rw [contentSize?] at h
    split at h
    · rename_i hc
      obtain ⟨rfl, rfl⟩ := hc
      exact ⟨[], r, rfl, by simpa using h.symm, .nil⟩
    · rename_i hc
      obtain ⟨content, rest, rfl, rfl, hr⟩ := ih h
      refine ⟨c :: content, rest, rfl, by simp only [List.length_cons]; omega, ?_⟩
      by_cases hq : c = '"'
      · subst hq
        cases quoted with
        | false => simpa using hr
        | true => simpa using Content.quoted (q := []) (by simp) (by simpa using hr)
      · cases quoted with
        | false => exact .plain ⟨fun h => hc ⟨h, rfl⟩, hq⟩ (by simpa [hq] using hr)
        | true =>
          obtain ⟨q, s, rfl, hs, hr⟩ := Content.of_quote (by simpa [hq] using hr)
          have hc : '"' ∉ c :: q := by
            rw [List.mem_cons, not_or]
            exact ⟨Ne.symm hq, hs⟩
          exact .quoted hc hr

/-- Content with a slash at its end, but for white space. -/
def Slashed (content : List Char) : Prop :=
  ∃ before blanks, content = before ++ '/' :: blanks ∧ ∀ c ∈ blanks, Text.isBlank c = true

/-- The texts of a tag. One that opens a node closes it as well if its content ends in a slash. -/
inductive Tag.Spelled : Tag → List Char → Prop
  | opening {content : List Char} (h : Content content)
      (hw : content.head?.any Unicode.isWord = false) (hs : ¬ Slashed content) :
      Spelled (.opening content) ("<node".toList ++ (content ++ ['>']))
  | selfClosing {content : List Char} (h : Content content)
      (hw : content.head?.any Unicode.isWord = false) (hs : Slashed content) :
      Spelled (.selfClosing content) ("<node".toList ++ (content ++ ['>']))
  | closing {blanks : List Char} (h : ∀ c ∈ blanks, Text.isBlank c = true) :
      Spelled .closing ("</node".toList ++ (blanks ++ ['>']))

theorem slashed_iff {content : List Char} :
    Slashed content ↔ (Text.trimEnd content).getLast? = some '/' := by
  constructor
  · rintro ⟨before, blanks, rfl, hb⟩
    have hs : before ++ '/' :: blanks = before ++ ['/'] ++ blanks := by simp
    rw [hs, Text.trimEnd_blanks hb, Text.trimEnd_concat (by decide), List.getLast?_concat]
  · intro h
    obtain ⟨before, hbefore⟩ := List.getLast?_eq_some_iff.mp h
    have hcontent := Text.trimEnd_append_dropped content
    rw [hbefore] at hcontent
    refine ⟨before, (content.reverse.takeWhile Text.isBlank).reverse, ?_, fun c hc => ?_⟩
    · exact hcontent.symm.trans (List.append_assoc before ['/'] _)
    · exact List.mem_takeWhile_imp (List.mem_reverse.mp hc)

theorem Tag.Spelled.ofContent {content : List Char} (h : Content content)
    (hw : content.head?.any Unicode.isWord = false) :
    Tag.Spelled (.ofContent content) ("<node".toList ++ (content ++ ['>'])) := by
  rw [Tag.ofContent]
  split
  · rename_i hs
    exact .selfClosing h hw (slashed_iff.mpr hs)
  · rename_i hs
    exact .opening h hw (mt slashed_iff.mp hs)

theorem Tag.Spelled.length_pos {t : Tag} {text : List Char} (h : t.Spelled text) :
    0 < text.length := by
  cases h <;> simp

theorem Tag.Spelled.begins {t : Tag} {text : List Char} (h : t.Spelled text) :
    "<node".toList <+: text ∨ "</node".toList <+: text := by
  cases h with
  | opening => exact .inl (List.prefix_append _ _)
  | selfClosing => exact .inl (List.prefix_append _ _)
  | closing => exact .inr (List.prefix_append _ _)

theorem length_node (content : List Char) :
    ("<node".toList ++ (content ++ ['>'])).length = content.length + 6 := by
  simp

theorem length_endNode (blanks : List Char) :
    ("</node".toList ++ (blanks ++ ['>'])).length = blanks.length + 7 := by
  simp

theorem tag?_node (r : List Char) :
    tag? ("<node".toList ++ r) =
      if r.head?.any Unicode.isWord then none
      else (contentSize? false 0 r).map fun n => (.ofContent (r.take n), n + 6) := rfl

theorem tag?_endNode (r : List Char) :
    tag? ("</node".toList ++ r) =
      if r[(r.takeWhile Text.isBlank).length]? = some '>' then
        some (.closing, (r.takeWhile Text.isBlank).length + 7)
      else none := rfl

theorem tag?_begins {s : List Char} (h : tag? s ≠ none) :
    "<node".toList <+: s ∨ "</node".toList <+: s := by
  rw [tag?] at h
  split at h
  · rename_i hp
    exact .inl (List.isPrefixOf_iff_prefix.mp hp)
  · split at h
    · rename_i hp
      exact .inr (List.isPrefixOf_iff_prefix.mp hp)
    · exact absurd rfl h

theorem Content.tag?_eq {content : List Char} (h : Content content)
    (hw : content.head?.any Unicode.isWord = false) (rest : List Char) :
    tag? ("<node".toList ++ (content ++ ['>']) ++ rest) =
      some (.ofContent content, ("<node".toList ++ (content ++ ['>'])).length) := by
  have hs : "<node".toList ++ (content ++ ['>']) ++ rest =
      "<node".toList ++ (content ++ '>' :: rest) := by simp
  have hw : (content ++ '>' :: rest).head?.any Unicode.isWord = false := by
    cases content with
    | nil => rfl
    | cons c content => exact hw
  rw [hs, tag?_node, hw, if_neg Bool.false_ne_true, h.contentSize?_eq, Nat.zero_add]
  rw [Option.map_some, List.take_left, length_node]

theorem Tag.Spelled.tag?_eq {t : Tag} {text : List Char} (h : t.Spelled text) (rest : List Char) :
    tag? (text ++ rest) = some (t, text.length) := by
  cases h with
  | opening h hw hs => rw [h.tag?_eq hw, Tag.ofContent, if_neg (mt slashed_iff.mpr hs)]
  | selfClosing h hw hs => rw [h.tag?_eq hw, Tag.ofContent, if_pos (slashed_iff.mp hs)]
  | @closing blanks h =>
    have hs : "</node".toList ++ (blanks ++ ['>']) ++ rest =
        "</node".toList ++ (blanks ++ '>' :: rest) := by simp
    have hb : (blanks ++ '>' :: rest).takeWhile Text.isBlank = blanks := by
      have he : ('>' :: rest).takeWhile Text.isBlank = [] := rfl
      rw [List.takeWhile_append_of_pos h, he, List.append_nil]
    rw [hs, tag?_endNode]
    rw [hb, length_endNode, if_pos (by simp)]

/-- A tag is read at the start of a text if, and only if, the text begins as the tag is spelled. -/
theorem tag?_eq_some_iff {s : List Char} {t : Tag} {n : Nat} :
    tag? s = some (t, n) ↔ ∃ text rest, s = text ++ rest ∧ t.Spelled text ∧ text.length = n := by
  constructor
  · intro h
    obtain ⟨r, rfl⟩ | ⟨r, rfl⟩ := tag?_begins (Option.ne_none_iff_exists'.mpr ⟨_, h⟩)
    · rw [tag?_node] at h
      split at h
      · cases h
      · rename_i hw
        obtain ⟨k, hk, ht⟩ := Option.map_eq_some_iff.mp h
        obtain ⟨content, rest, rfl, rfl, hc⟩ := content_of_contentSize? hk
        rw [Nat.zero_add, List.take_left] at ht
        obtain ⟨rfl, rfl⟩ := Prod.mk.inj ht
        have hw : content.head?.any Unicode.isWord = false := by
          cases content with
          | nil => rfl
          | cons c content => simpa using hw
        have hs : Tag.Spelled _ _ := .ofContent (by simpa using hc) hw
        exact ⟨_, rest, by simp, hs, length_node content⟩
    · rw [tag?_endNode] at h
      split at h
      · rename_i hb
        obtain ⟨rfl, rfl⟩ := Prod.mk.inj (Option.some.inj h)
        obtain ⟨blanks, rest', rfl, hw, hx⟩ : ∃ blanks rest', r = blanks ++ rest' ∧
            (∀ c ∈ blanks, Text.isBlank c = true) ∧ r.takeWhile Text.isBlank = blanks :=
          ⟨_, _, List.takeWhile_append_dropWhile.symm, fun _ => List.mem_takeWhile_imp, rfl⟩
        rw [hx, List.getElem?_append_right (Nat.le_refl _), Nat.sub_self] at hb
        obtain ⟨rest, rfl⟩ : ∃ rest, rest' = '>' :: rest := by
          cases rest' with
          | nil => cases hb
          | cons c rest => exact ⟨rest, by simpa using hb⟩
        exact ⟨_, rest, by simp, .closing hw, by rw [hx, length_endNode]⟩
      · cases h
  · rintro ⟨text, rest, rfl, ht, rfl⟩
    exact ht.tag?_eq rest

/-- Whether a text begins as some tag is spelled. -/
def Begins (s : List Char) : Prop := ∃ t text rest, s = text ++ rest ∧ Tag.Spelled t text

theorem tag?_eq_none_iff {s : List Char} : tag? s = none ↔ ¬ Begins s := by
  rw [← not_iff_not, not_not, ← Ne, Option.ne_none_iff_exists']
  constructor
  · rintro ⟨⟨t, n⟩, h⟩
    obtain ⟨text, rest, rfl, ht, -⟩ := tag?_eq_some_iff.mp h
    exact ⟨t, text, rest, rfl, ht⟩
  · rintro ⟨t, text, rest, rfl, ht⟩
    exact ⟨_, ht.tag?_eq rest⟩

/-- The matches in a text from left to right: the first is where no other begins before it, and the
others follow behind its end. -/
inductive Tokens : List Char → List Tag → Prop
  | none {s : List Char} (h : ∀ b, b <:+ s → ¬ Begins b) : Tokens s []
  | next {before text rest : List Char} {t : Tag} {ts : List Tag} (ht : t.Spelled text)
      (first : ∀ b, b <:+ before → b ≠ [] → ¬ Begins (b ++ (text ++ rest)))
      (more : Tokens rest ts) : Tokens (before ++ (text ++ rest)) (t :: ts)

theorem tagsFrom_eq (skip : Nat) (s : List Char) : tagsFrom skip s = tags (s.drop skip) := by
  induction s generalizing skip with
  | nil => cases skip <;> rfl
  | cons c r ih =>
    cases skip with
    | zero => rfl
    | succ skip => simpa [tagsFrom] using ih skip

theorem tags_cons_of_not_begins {c : Char} {r : List Char} (h : ¬ Begins (c :: r)) :
    tags (c :: r) = tags r := by
  rw [tags, tagsFrom, tag?_eq_none_iff.mpr h]
  rfl

theorem tags_of_begins {t : Tag} {text : List Char} (ht : t.Spelled text) (rest : List Char) :
    tags (text ++ rest) = t :: tags rest := by
  obtain ⟨c, text, rfl⟩ := List.exists_cons_of_length_pos ht.length_pos
  rw [tags, List.cons_append, tagsFrom, ← List.cons_append, ht.tag?_eq]
  simp only [List.length_cons, Nat.add_sub_cancel, tagsFrom_eq, List.drop_left]

/-- A tag that no other begins before is the first one of the text. -/
theorem tags_append {before text : List Char} {t : Tag} (ht : t.Spelled text) (rest : List Char)
    (first : ∀ b, b <:+ before → b ≠ [] → ¬ Begins (b ++ (text ++ rest))) :
    tags (before ++ (text ++ rest)) = t :: tags rest := by
  induction before with
  | nil => exact tags_of_begins ht rest
  | cons c before ih =>
    have hc : ¬ Begins (c :: (before ++ (text ++ rest))) :=
      first (c :: before) (List.suffix_refl _) (List.cons_ne_nil _ _)
    rw [List.cons_append, tags_cons_of_not_begins hc]
    exact ih fun b hb => first b (hb.trans (List.suffix_cons c before))

theorem tags_eq_nil {s : List Char} (h : ∀ b, b <:+ s → ¬ Begins b) : tags s = [] := by
  induction s with
  | nil => rfl
  | cons c r ih =>
    rw [tags_cons_of_not_begins (h _ (List.suffix_refl _))]
    exact ih fun b hb => h b (hb.trans (List.suffix_cons c r))

theorem Tokens.tags_eq {s : List Char} {ts : List Tag} (h : Tokens s ts) : tags s = ts := by
  induction h with
  | none h => exact tags_eq_nil h
  | next ht first _ ih => rw [tags_append ht _ first, ih]

theorem Tokens.cons {c : Char} {r : List Char} {ts : List Tag} (h : Tokens r ts)
    (hc : ¬ Begins (c :: r)) : Tokens (c :: r) ts := by
  cases h with
  | none h =>
    refine .none fun b hb => ?_
    obtain rfl | hb := List.suffix_cons_iff.mp hb
    · exact hc
    · exact h b hb
  | @next before text rest t ts ht first more =>
    refine @Tokens.next (c :: before) _ _ _ _ ht (fun b hb hn => ?_) more
    obtain rfl | hb := List.suffix_cons_iff.mp hb
    · exact hc
    · exact first b hb hn

theorem not_begins_nil : ¬ Begins [] := tag?_eq_none_iff.mp rfl

theorem tokens_tags (s : List Char) : Tokens s (tags s) := by
  -- A match may leave any suffix of the text to be read.
  induction hl : s.length using Nat.strongRecOn generalizing s with
  | _ n ih =>
    subst hl
    cases s with
    | nil =>
      refine .none fun b hb => ?_
      obtain rfl := List.suffix_nil.mp hb
      exact not_begins_nil
    | cons c r =>
      by_cases hb : Begins (c :: r)
      · obtain ⟨t, text, rest, hs, ht⟩ := hb
        have hr : rest.length < (c :: r).length := by
          have hp := ht.length_pos
          rw [hs, List.length_append]
          omega
        have hm := ih rest.length hr rest rfl
        rw [hs, tags_of_begins ht]
        refine @Tokens.next [] _ _ _ _ ht (fun b hb hn => ?_) hm
        exact absurd (List.suffix_nil.mp hb) hn
      · rw [tags_cons_of_not_begins hb]
        exact (ih r.length (by simp) r rfl).cons hb

/-- The tags of a text are its matches from left to right. -/
theorem tokens_iff {s : List Char} {ts : List Tag} : Tokens s ts ↔ ts = tags s := by
  constructor
  · exact fun h => h.tags_eq.symm
  · rintro rfl
    exact tokens_tags s

end ScreenAgent.Hierarchy
