import Mathlib.Data.List.DropRight
import ScreenAgent.Proofs.Archive.Lines
import ScreenAgent.Proofs.Json.Joined

namespace ScreenAgent.Archive

def bytes (a : Archive) : List UInt8 :=
  match a.entry with
  | .file bytes => bytes
  | _ => []

/-- The lines of a file that have their line feed. -/
def closedLines (bytes : List UInt8) : List UInt8 := bytes.rdropWhile (· ≠ 10)

/-- What stands behind the last line feed. -/
def openLine (bytes : List UInt8) : List UInt8 := bytes.rtakeWhile (· ≠ 10)

theorem openLine_ne {bytes : List UInt8} : ∀ b ∈ openLine bytes, b ≠ 10 := by
  intro b hb
  simpa using List.mem_rtakeWhile_imp hb

theorem closedLines_eq_nil {bytes : List UInt8} (h : ∀ b ∈ bytes, b ≠ 10) : closedLines bytes = [] :=
  List.rdropWhile_eq_nil_iff.mpr fun b hb => decide_eq_true (h b hb)

theorem openLine_eq_self {bytes : List UInt8} (h : ∀ b ∈ bytes, b ≠ 10) : openLine bytes = bytes :=
  List.rtakeWhile_eq_self_iff.mpr fun b hb => decide_eq_true (h b hb)

theorem closedLines_cases (bytes : List UInt8) :
    closedLines bytes = [] ∨ ∃ x, closedLines bytes = x ++ [10] := by
  by_cases h : closedLines bytes = []
  · exact .inl h
  · have hl : (closedLines bytes).getLast h = 10 := by
      have hn := List.rdropWhile_last_not (fun b : UInt8 => decide (b ≠ 10)) bytes h
      exact of_not_not fun hl => hn (decide_eq_true hl)
    rw [← hl]
    exact .inr ⟨_, (List.dropLast_append_getLast h).symm⟩

theorem go_feed (ending : List UInt8 → List UInt8) (current x r : List UInt8) :
    linesOf.go ending current (x ++ 10 :: r) =
      linesOf.go ending current (x ++ [10]) ++ linesOf.go ending [] r := by
  induction x generalizing current with
  | nil => simp [linesOf.go]
  | cons b x ih =>
    simp only [List.cons_append, linesOf.go]
    split
    · rw [ih, List.cons_append]
    · exact ih _

theorem linesOf_split (bytes r : List UInt8) :
    linesOf (bytes ++ r) = linesOf (closedLines bytes) ++ linesOf (openLine bytes ++ r) := by
  have hb : closedLines bytes ++ openLine bytes = bytes := List.rdropWhile_append_rtakeWhile
  rw [← hb, List.append_assoc, hb]
  obtain h | ⟨x, h⟩ := closedLines_cases bytes
  · rw [h]
    rfl
  · rw [h, List.append_assoc, List.singleton_append]
    exact go_feed _ [] x _

theorem readLines_append (ls ms : List (List UInt8)) :
    readLines (ls ++ ms) =
      (readLines ls).bind fun es => (readLines ms).map (es ++ ·) := by
  induction ls with
  | nil =>
    rw [List.nil_append, readLines]
    cases readLines ms <;> rfl
  | cons l ls ih =>
    rw [List.cons_append, readLines, readLines]
    cases Text.Utf8.decode? l with
    | none => rfl
    | some text =>
      simp only [ih]
      cases readLines ls with
      | error e => rfl
      | ok es => cases readLines ms <;> simp [Except.map, Except.bind]

theorem readLines_open {l : List UInt8} (hl : ∀ b ∈ l, b ≠ 10) :
    readLines (linesOf l) = (Text.Utf8.decode? l).elim (.error .notText) fun text =>
      .ok (experience? text).toList := by
  rw [linesOf_open hl]
  split
  · rename_i hn
    rw [hn]
    rfl
  · rw [readLines]
    cases Text.Utf8.decode? l with
    | none => rfl
    | some text => simp [readLines, Except.map]

theorem readLines_split {bytes : List UInt8} {es : List Experience}
    (h : readLines (linesOf bytes) = .ok es) :
    ∃ before text, readLines (linesOf (closedLines bytes)) = .ok before ∧
      Text.Utf8.decode? (openLine bytes) = some text ∧
      es = before ++ (experience? text).toList := by
  have hs := linesOf_split bytes []
  rw [List.append_nil, List.append_nil] at hs
  rw [hs, readLines_append, readLines_open openLine_ne] at h
  cases hb : readLines (linesOf (closedLines bytes)) with
  | error e => simp [hb, Except.bind] at h
  | ok before =>
    rw [hb] at h
    cases ht : Text.Utf8.decode? (openLine bytes) with
    | none => simp [ht, Except.bind, Except.map] at h
    | some text =>
      rw [ht] at h
      exact ⟨before, text, rfl, rfl, (Except.ok.inj h).symm⟩

theorem experience?_blank {text : List Char} (h : Json.skipSpace text = []) :
    experience? text = none := by
  rw [experience?, Json.read?, ← Json.value?_skipSpace, h]
  rfl

/-- The line of an experience goes on with a text: that is no experience, whatever the text is, unless
there is nothing but white space in it. -/
theorem Legible.read_behind {e : Experience} (h : Legible e) (text : List Char) :
    experience? (text ++ e.toJson.compact) =
      if Json.skipSpace text = [] then some e else none := by
  have hn : Json.PlainName "id" := ⟨'i', ['d'], by decide, by decide, by decide, by decide⟩
  split
  · rename_i ht
    rw [experience?, h.proper.read?_blank ht, Option.bind_some, h.ofJson_eq]
  · rename_i ht
    rw [experience?, Experience.toJson, Json.Proper.read?_joined h.proper hn ht, Option.bind_none]

theorem exists_encode_compact (e : Experience) :
    ∃ bytes, Text.Utf8.encode e.toJson.compact = bytes ++ [125] := by
  have hb : String.utf8EncodeChar '\x7d' = [125] := by decide
  rw [Experience.toJson, Json.compact_ofMembers, ← List.cons_append]
  exact ⟨_, by rw [Text.Utf8.encode, List.flatMap_append, List.flatMap_singleton, hb]⟩

/-- The first line of a batch goes on with the last line of the file. -/
theorem readLines_behind {bytes : List UInt8} {before : List Experience} {text : List Char}
    (hb : readLines (linesOf (closedLines bytes)) = .ok before)
    (ht : Text.Utf8.decode? (openLine bytes) = some text) {e : Experience} {batch : List Experience}
    (he : ∀ d ∈ e :: batch, Legible d) :
    readLines (linesOf (bytes ++ bytesOf (e :: batch))) =
      .ok (before ++ ((experience? (text ++ e.toJson.compact)).toList ++ batch)) := by
  have hd := he e List.mem_cons_self
  have hr := readLines_bytesOf fun d hd => he d (List.mem_cons_of_mem _ hd)
  have hp := Text.Utf8.encode_printing hd.printing
  have hl : linesOf (openLine bytes ++ bytesOf (e :: batch)) =
      (openLine bytes ++ Text.Utf8.encode e.toJson.compact) :: linesOf (bytesOf batch) := by
    rw [bytesOf_cons, ← List.append_assoc]
    refine linesOf_cut (fun b hb => ?_) ?_ _
    · obtain hb | hb := List.mem_append.mp hb
      · exact openLine_ne b hb
      · rintro rfl
        exact absurd (hp 10 hb) (by decide)
    · obtain ⟨bytes, hc⟩ := exists_encode_compact e
      simp [hc]
  rw [linesOf_split, readLines_append, hb, hl, readLines, Text.Utf8.decode?_append ht,
    Text.Utf8.decode?_encode, hr]
  rfl

theorem append_bytes {a b : Archive} {batch : List Experience} (h : a.append batch = .ok b) :
    b.bytes = a.bytes ++ bytesOf batch ∧ a.load = readLines (linesOf a.bytes) ∧
      b.load = readLines (linesOf b.bytes) := by
  obtain ⟨entry, parentBlocked⟩ := a
  unfold append at h
  cases parentBlocked with
  | true => cases h
  | false =>
    cases entry with
    | absent =>
      obtain rfl := Except.ok.inj h
      exact ⟨rfl, rfl, rfl⟩
    | file bytes =>
      obtain rfl := Except.ok.inj h
      exact ⟨rfl, rfl, rfl⟩
    | directory => cases h

/-- A batch of scored experiences that is added to an archive which can be read. The text behind the
last line feed of the file goes on with the first line of the batch. Where there is nothing but white
space in it, all that was there and all of the batch is read; otherwise the first experience of the
batch is lost, and with it one that stands in that text. -/
theorem load_append {a b : Archive} {earlier batch : List Experience}
    (hload : a.load = .ok earlier)
    (hbatch : ∀ e ∈ batch, e.action.Sized ∧
      ∃ (s : Snapshot) (act : Action) (o : Outcome), e.reward = ShapedReward.score s act o)
    (happend : a.append batch = .ok b) :
    ∃ before text, Text.Utf8.decode? (openLine a.bytes) = some text ∧
      earlier = before ++ (experience? text).toList ∧
      (b.load = .ok (earlier ++ batch) ↔ batch = [] ∨ Json.skipSpace text = []) ∧
      (b.load = .ok (earlier ++ batch) ∨ b.load = .ok (before ++ batch.tail)) := by
  obtain ⟨hbytes, ha, hb⟩ := append_bytes happend
  rw [ha] at hload
  obtain ⟨before, text, hbefore, htext, rfl⟩ := readLines_split hload
  refine ⟨before, text, htext, rfl, ?_⟩
  cases batch with
  | nil =>
    have hl : b.load = .ok (before ++ (experience? text).toList ++ []) := by
      rw [hb, hbytes, List.append_nil, bytesOf]
      simpa [Text.Utf8.encode] using hload
    exact ⟨⟨fun _ => .inl rfl, fun _ => hl⟩, .inl hl⟩
  | cons e batch =>
    have hleg : ∀ d ∈ e :: batch, Legible d := by
      intro d hd
      obtain ⟨hs, _, _, _, hr⟩ := hbatch d hd
      exact legible_of_score hs hr
    have hl := readLines_behind hbefore htext hleg
    rw [(hleg e List.mem_cons_self).read_behind, ← hbytes, ← hb] at hl
    by_cases ht : Json.skipSpace text = []
    · rw [if_pos ht] at hl
      rw [experience?_blank ht, Option.toList_none, List.append_nil]
      exact ⟨⟨fun _ => .inr ht, fun _ => hl⟩, .inl hl⟩
    · rw [if_neg ht] at hl
      refine ⟨⟨fun h => ?_, fun h => ?_⟩, .inr hl⟩
      · rw [hl] at h
        have hlen := congrArg List.length (Except.ok.inj h)
        simp only [List.length_append, List.length_cons, Option.toList_none, List.length_nil] at hlen
        omega
      · exact absurd (h.resolve_left (List.cons_ne_nil _ _)) ht

/-- One byte is there of a line that was not written to its end; of two experiences behind it only the
second is read. -/
theorem load_append_brace :
    let e (n : Nat) : Experience :=
      ⟨.ofNat n, .empty, .noOp, .success, ⟨⟨2025, 1, 2⟩, 3, 4, 5, 0, by decide⟩, 0.05⟩
    let a : Archive := { entry := .file [123] }
    a.load = .ok [] ∧
    (∀ d ∈ [e 1, e 2], d.action.Sized ∧
      ∃ (s : Snapshot) (act : Action) (o : Outcome), d.reward = ShapedReward.score s act o) ∧
    ∃ b, a.append [e 1, e 2] = .ok b ∧ b.load = .ok [e 2] := by
  intro e a
  have hload : a.load = .ok [] := rfl
  have hbatch : ∀ d ∈ [e 1, e 2], d.action.Sized ∧
      ∃ (s : Snapshot) (act : Action) (o : Outcome), d.reward = ShapedReward.score s act o := by
    intro d hd
    obtain rfl | rfl : d = e 1 ∨ d = e 2 := by simpa using hd
    · exact ⟨by decide, .empty, .noOp, .success, rfl⟩
    · exact ⟨by decide, .empty, .noOp, .success, rfl⟩
  obtain ⟨b, happend⟩ : ∃ b, a.append [e 1, e 2] = .ok b := ⟨_, rfl⟩
  refine ⟨hload, hbatch, b, happend, ?_⟩
  obtain ⟨before, text, htext, hbefore, hiff, hb⟩ := load_append hload hbatch happend
  obtain rfl : ['\x7b'] = text := Option.some.inj htext
  obtain ⟨rfl, -⟩ := List.append_eq_nil_iff.mp hbefore.symm
  exact hb.resolve_left fun h => absurd (hiff.mp h) (by decide)

theorem dropLast_bytesOf (e : Experience) :
    (bytesOf [e]).dropLast = Text.Utf8.encode e.toJson.compact := by
  rw [bytesOf_cons]
  exact List.dropLast_concat

/-- A line of which nothing is missing but its line feed is read; once another line is behind it, both
are lost. -/
theorem load_cut {e f : Experience} (he : Legible e) (hf : Legible f) :
    let a : Archive := { entry := .file (bytesOf [e]).dropLast }
    a.load = .ok [e] ∧ ∃ b, a.append [f] = .ok b ∧ b.load = .ok [] := by
  have hfeed : ∀ b ∈ (bytesOf [e]).dropLast, b ≠ 10 := by
    rw [dropLast_bytesOf]
    rintro b hb rfl
    exact absurd (Text.Utf8.encode_printing he.printing 10 hb) (by decide)
  have htext : Text.Utf8.decode? (bytesOf [e]).dropLast = some e.toJson.compact := by
    rw [dropLast_bytesOf, Text.Utf8.decode?_encode]
  intro a
  have hbytes : a.bytes = (bytesOf [e]).dropLast := rfl
  obtain ⟨b, happend⟩ : ∃ b, a.append [f] = .ok b := ⟨_, rfl⟩
  obtain ⟨hb, hload, hafter⟩ := append_bytes happend
  refine ⟨?_, b, happend, ?_⟩
  · rw [hload, hbytes, readLines_open hfeed, htext, Option.elim_some, he.read_eq]
    rfl
  · have hbefore : readLines (linesOf (closedLines a.bytes)) = .ok [] := by
      rw [hbytes, closedLines_eq_nil hfeed]
      rfl
    have hopen : Text.Utf8.decode? (openLine a.bytes) = some e.toJson.compact := by
      rw [hbytes, openLine_eq_self hfeed, htext]
    have hspace : Json.skipSpace e.toJson.compact ≠ [] := by
      obtain ⟨c, r, hc, -⟩ := Json.compact_begins he.proper
      rw [he.proper.skipSpace_compact, hc]
      exact List.cons_ne_nil c r
    rw [hafter, hb, readLines_behind hbefore hopen (by simpa using hf), hf.read_behind,
      if_neg hspace]
    rfl

/-- The only line of a file is cut off by one byte and can still be read. A batch is added without an
error, and then neither can be read. -/
theorem append_loses :
    let e (n : Nat) : Experience :=
      ⟨.ofNat n, .empty, .noOp, .success, ⟨⟨2025, 1, 2⟩, 3, 4, 5, 0, by decide⟩,
        ShapedReward.score .empty .noOp .success⟩
    let a : Archive := { entry := .file (bytesOf [e 1]).dropLast }
    a.load = .ok [e 1] ∧ ∃ b, a.append [e 2] = .ok b ∧ b.load = .ok [] ∧
      b.load ≠ .ok ([e 1] ++ [e 2]) := by
  intro e a
  have he (n : Nat) : Legible (e n) := by
    have hs : (e n).action.Sized := by rintro target ⟨⟩
    have hr : (e n).reward = ShapedReward.score .empty .noOp .success := rfl
    exact legible_of_score hs hr
  obtain ⟨hload, b, happend, hb⟩ := load_cut (he 1) (he 2)
  refine ⟨hload, b, happend, hb, fun h => ?_⟩
  rw [hb] at h
  exact List.cons_ne_nil _ _ (Except.ok.inj h).symm

end ScreenAgent.Archive
