import ScreenAgent.Proofs.Archive.Appending
import ScreenAgent.Proofs.Text.Timestamp

namespace ScreenAgent.Archive

/-- A file and its lines. A line ends in a line feed, which may have a carriage return before it; only
the last line may do without. -/
inductive Cut : List UInt8 → List (List UInt8) → Prop
  | nil : Cut [] []
  | last {l : List UInt8} (hl : l ≠ []) (hf : ∀ b ∈ l, b ≠ 10) : Cut l [l]
  | feed {l r : List UInt8} {ls : List (List UInt8)} (hf : ∀ b ∈ l, b ≠ 10)
      (hr : l.getLast? ≠ some 13) (rest : Cut r ls) : Cut (l ++ 10 :: r) (l :: ls)
  | returnFeed {l r : List UInt8} {ls : List (List UInt8)} (hf : ∀ b ∈ l, b ≠ 10)
      (rest : Cut r ls) : Cut (l ++ 13 :: 10 :: r) (l :: ls)

theorem linesOf_cut_return {l : List UInt8} (hf : ∀ b ∈ l, b ≠ 10) (r : List UInt8) :
    linesOf (l ++ 13 :: 10 :: r) = l :: linesOf r := by
  have hb : ∀ b ∈ l ++ [13], b ≠ 10 := by
    intro b hb
    obtain hb | hb := List.mem_append.mp hb
    · exact hf b hb
    · obtain rfl := List.mem_singleton.mp hb
      decide
  have hs : l ++ 13 :: 10 :: r = (l ++ [13]) ++ 10 :: r := by simp
  unfold linesOf
  rw [hs, go_append _ hb, List.append_nil, linesOf.go, if_pos rfl, List.reverse_reverse]
  simp

theorem cut_linesOf (bytes : List UInt8) : Cut bytes (linesOf bytes) := by
  -- on the length of the file, since the rest of it begins behind its first line
  induction hn : bytes.length using Nat.strong_induction_on generalizing bytes with
  | _ n ih =>
    by_cases hm : (10 : UInt8) ∈ bytes
    · obtain ⟨l, r, rfl, hl⟩ := List.eq_append_cons_of_mem hm
      have hf : ∀ b ∈ l, b ≠ 10 := fun b hb he => hl (he ▸ hb)
      have hrest : Cut r (linesOf r) := by
        refine ih r.length ?_ r rfl
        rw [← hn, List.length_append, List.length_cons]
        omega
      by_cases hr : l.getLast? = some 13
      · obtain ⟨l, rfl⟩ := List.getLast?_eq_some_iff.mp hr
        have hf : ∀ b ∈ l, b ≠ 10 := fun b hb => hf b (List.mem_append_left _ hb)
        rw [List.append_assoc, List.singleton_append, linesOf_cut_return hf]
        exact .returnFeed hf hrest
      · rw [linesOf_cut hf hr]
        exact .feed hf hr hrest
    · have hf : ∀ b ∈ bytes, b ≠ 10 := fun b hb he => hm (he ▸ hb)
      rw [linesOf_open hf]
      split
      · rename_i hb
        rw [hb]
        exact .nil
      · rename_i hb
        exact .last hb hf

theorem Cut.eq_linesOf {bytes : List UInt8} {lines : List (List UInt8)} (h : Cut bytes lines) :
    lines = linesOf bytes := by
  induction h with
  | nil => rfl
  | last hl hf => rw [linesOf_open hf, if_neg hl]
  | feed hf hr _ ih => rw [linesOf_cut hf hr, ih]
  | returnFeed hf _ ih => rw [linesOf_cut_return hf, ih]

theorem cut_iff (bytes : List UInt8) (lines : List (List UInt8)) :
    Cut bytes lines ↔ lines = linesOf bytes := by
  refine ⟨Cut.eq_linesOf, ?_⟩
  rintro rfl
  exact cut_linesOf bytes

def IsText (l : List UInt8) : Prop := ∃ text, l = Text.Utf8.encode text

def held? (l : List UInt8) : Option Experience := (Text.Utf8.decode? l).bind experience?

theorem isText_iff {l : List UInt8} : IsText l ↔ ∃ text, Text.Utf8.decode? l = some text :=
  exists_congr fun _ => Text.Utf8.decode?_eq_some.symm

theorem not_isText_iff {l : List UInt8} : ¬ IsText l ↔ Text.Utf8.decode? l = none := by
  rw [isText_iff, ← Option.ne_none_iff_exists', not_not]

theorem held?_encode (text : List Char) : held? (Text.Utf8.encode text) = experience? text := by
  rw [held?, Text.Utf8.decode?_encode, Option.bind_some]

theorem held?_eq_some {l : List UInt8} {e : Experience} :
    held? l = some e ↔ ∃ text, l = Text.Utf8.encode text ∧ experience? text = some e := by
  rw [held?, Option.bind_eq_some_iff]
  exact exists_congr fun _ => and_congr_left' Text.Utf8.decode?_eq_some

theorem readLines_of_text {lines : List (List UInt8)} (h : ∀ l ∈ lines, IsText l) :
    readLines lines = .ok (lines.filterMap held?) := by
  induction lines with
  | nil => rfl
  | cons l ls ih =>
    obtain ⟨text, rfl⟩ := h l List.mem_cons_self
    have hr := ih fun m hm => h m (List.mem_cons_of_mem _ hm)
    simp only [readLines, Text.Utf8.decode?_encode, hr, Except.map, List.filterMap_cons,
      held?_encode]
    cases experience? text <;> rfl

theorem readLines_of_not_text {lines : List (List UInt8)} (h : ∃ l ∈ lines, ¬ IsText l) :
    readLines lines = .error .notText := by
  obtain ⟨l, hm, hl⟩ := h
  induction lines with
  | nil => cases hm
  | cons m ls ih =>
    rw [readLines]
    obtain rfl | hm := List.mem_cons.mp hm
    · rw [not_isText_iff.mp hl]
    · rw [ih hm]
      cases Text.Utf8.decode? m <;> rfl

/-- No value begins with white space of any script that is no white space between values. -/
theorem value?_of_isBlank {c : Char} (hb : Text.isBlank c = true) (hs : Json.isSpace c = false)
    (n : Nat) (r : List Char) : Json.value? n (c :: r) = none := by
  have hne {d : Char} (hd : Text.isBlank d = false) : c ≠ d := by
    rintro rfl
    exact Bool.noConfusion (hb.symm.trans hd)
  have hdigit : Text.isDigit c = false := by
    refine Bool.eq_false_iff.mpr fun hd => ?_
    exact Bool.noConfusion (hb.symm.trans (Text.isBlank_of_isDigit hd))
  have hnumeral : Json.numeral? (c :: r) = none := by
    have hm : (some c == some '-') = false := by simpa using hne (d := '-') (by decide)
    simp [Json.numeral?, hm, List.span_eq_takeWhile_dropWhile, hdigit]
  cases n with
  | zero => rfl
  | succ n =>
    have hskip : Json.skipSpace (c :: r) = c :: r := List.dropWhile_cons_of_neg (by simp [hs])
    rw [Json.value?, hskip]
    split
    case h_7 => rw [hnumeral, Option.map_none]
    all_goals
      rename_i he
      exact absurd (List.cons.inj he).1 (hne (by decide))

theorem experience?_of_isBlank {text : List Char} (h : ∀ c ∈ text, Text.isBlank c = true) :
    experience? text = none := by
  cases hs : Json.skipSpace text with
  | nil => exact experience?_blank hs
  | cons c r =>
    have hm : c ∈ Json.skipSpace text := hs ▸ List.mem_cons_self
    have hb := h c ((List.dropWhile_suffix _).mem hm)
    have hn : Json.isSpace c = false := by
      have hd := List.head?_dropWhile_not Json.isSpace text
      rwa [← Json.skipSpace, hs] at hd
    rw [experience?, Json.read?, ← Json.value?_skipSpace, hs, value?_of_isBlank hb hn]
    rfl

theorem load_file (bytes : List UInt8) :
    load { entry := .file bytes } = readLines (linesOf bytes) := rfl

/-- Whatever a file is made of: it is cut into lines in one way. It is read exactly if each line is
text, and then what is read are the experiences that its lines hold, in order; a line of white space
holds none. Otherwise nothing is read, whatever the other lines hold. -/
theorem load_exact (bytes : List UInt8) :
    let a : Archive := { entry := .file bytes }
    ∃ lines, (∀ ls, Cut bytes ls ↔ ls = lines) ∧
      (a.load = .ok (lines.filterMap held?) ↔ ∀ l ∈ lines, IsText l) ∧
      (a.load = .error .notText ↔ ∃ l ∈ lines, ¬ IsText l) ∧
      (∀ l e, held? l = some e ↔ ∃ text, l = Text.Utf8.encode text ∧ experience? text = some e) ∧
      ∀ text, (∀ c ∈ text, Text.isBlank c = true) → held? (Text.Utf8.encode text) = none := by
  intro a
  have hload : a.load = readLines (linesOf bytes) := load_file bytes
  refine ⟨linesOf bytes, cut_iff bytes, ?_, ?_, fun _ _ => held?_eq_some, fun text hb => ?_⟩
  · rw [hload]
    refine ⟨fun h l hm => ?_, readLines_of_text⟩
    by_contra hn
    rw [readLines_of_not_text ⟨l, hm, hn⟩] at h
    cases h
  · rw [hload]
    refine ⟨fun h => ?_, readLines_of_not_text⟩
    by_contra hn
    rw [readLines_of_text fun l hm => by_contra fun hl => hn ⟨l, hm, hl⟩] at h
    cases h
  · rw [held?_encode, experience?_of_isBlank hb]

/-- An experience that could be read is lost to a line behind it that is no text. -/
theorem load_spoiled {e : Experience} (he : Legible e) {l : List UInt8} (hl : ¬ IsText l)
    (hf : ∀ b ∈ l, b ≠ 10) (hr : l.getLast? ≠ some 13) :
    let bytes := bytesOf [e] ++ (l ++ [10])
    let lines := [Text.Utf8.encode e.toJson.compact, l]
    Cut bytes lines ∧ lines.filterMap held? = [e] ∧
      load { entry := .file bytes } = .error .notText := by
  intro bytes lines
  have hlines : linesOf bytes = lines := by
    simp only [bytes]
    rw [bytesOf_cons, List.append_assoc, List.cons_append,
      linesOf_line (Text.Utf8.encode_printing he.printing)]
    exact congrArg _ (linesOf_cut hf hr [])
  have hnone : held? l = none := by rw [held?, not_isText_iff.mp hl, Option.bind_none]
  refine ⟨(cut_iff bytes lines).mpr hlines.symm, ?_, ?_⟩
  · simp [lines, held?_encode, he.read_eq, hnone]
  · rw [load_file, hlines]
    exact readLines_of_not_text ⟨l, by simp [lines], hl⟩

/-- A file of two lines: an experience, and a line of one byte that is no text. The experience is not
read. -/
theorem load_refuses :
    let e : Experience :=
      ⟨.ofNat 1, .empty, .noOp, .success, ⟨⟨2025, 1, 2⟩, 3, 4, 5, 0, by decide⟩,
        ShapedReward.score .empty .noOp .success⟩
    let bytes := bytesOf [e] ++ [255, 10]
    let lines := [Text.Utf8.encode e.toJson.compact, [255]]
    Cut bytes lines ∧ lines.filterMap held? = [e] ∧ load { entry := .file bytes } ≠ .ok [e] := by
  intro e bytes lines
  have he : Legible e := by
    have hs : e.action.Sized := by rintro target ⟨⟩
    have hr : e.reward = ShapedReward.score .empty .noOp .success := rfl
    exact legible_of_score hs hr
  have hl : ¬ IsText [255] := not_isText_iff.mpr rfl
  obtain ⟨hcut, hheld, hload⟩ := load_spoiled he hl (by simp) (by simp)
  refine ⟨hcut, hheld, fun h => ?_⟩
  have hok : Except.error ArchiveError.notText = Except.ok [e] := hload.symm.trans h
  simp at hok

end ScreenAgent.Archive
