import ScreenAgent.Archive.Sink
import ScreenAgent.Proofs.Learning.Encoding
import ScreenAgent.Proofs.Learning.Rewards
import ScreenAgent.Proofs.Text.Utf8

namespace ScreenAgent.Archive

theorem bytesOf_append (es batch : List Experience) :
    bytesOf (es ++ batch) = bytesOf es ++ bytesOf batch := by
  simp [bytesOf, Text.Utf8.encode]

theorem bytesOf_cons (e : Experience) (es : List Experience) :
    bytesOf (e :: es) = Text.Utf8.encode e.toJson.compact ++ 10 :: bytesOf es := by
  have hn : String.utf8EncodeChar '\n' = [10] := by decide
  simp [bytesOf, line, Text.Utf8.encode, hn]

/-- Bytes without a line feed go on with the line that has begun. -/
theorem go_append (ending : List UInt8 → List UInt8) {l : List UInt8} (hl : ∀ b ∈ l, b ≠ 10)
    (current r : List UInt8) :
    linesOf.go ending current (l ++ r) = linesOf.go ending (l.reverse ++ current) r := by
  induction l generalizing current with
  | nil => rfl
  | cons b l ih =>
    have hr := ih (fun c hc => hl c (List.mem_cons_of_mem _ hc)) (b :: current)
    simp [linesOf.go, hl b List.mem_cons_self, hr]

theorem linesOf_cut {l : List UInt8} (hf : ∀ b ∈ l, b ≠ 10) (hr : l.getLast? ≠ some 13)
    (r : List UInt8) : linesOf (l ++ 10 :: r) = l :: linesOf r := by
  unfold linesOf
  rw [go_append _ hf, List.append_nil, linesOf.go, if_pos rfl, List.reverse_reverse, if_neg hr]

theorem linesOf_open {l : List UInt8} (hf : ∀ b ∈ l, b ≠ 10) :
    linesOf l = if l = [] then [] else [l] := by
  have hl := go_append (fun l => if l.getLast? = some 13 then l.dropLast else l) hf [] []
  rw [List.append_nil, List.append_nil] at hl
  unfold linesOf
  rw [hl, linesOf.go]
  simp

theorem linesOf_line {l : List UInt8} (hl : ∀ b ∈ l, 32 ≤ b.toNat) (r : List UInt8) :
    linesOf (l ++ 10 :: r) = l :: linesOf r := by
  -- neither the line feed that ends a line nor a carriage return before it stands in the text
  have hf : ∀ b ∈ l, b ≠ 10 := by
    rintro b hb rfl
    exact absurd (hl 10 hb) (by decide)
  have hr : l.getLast? ≠ some 13 := by
    intro h
    exact absurd (hl 13 (List.mem_of_getLast? h)) (by decide)
  exact linesOf_cut hf hr r

/-- Experiences that their line gives back. -/
structure Legible (e : Experience) : Prop where
  proper : e.toJson.Proper
  ofJson_eq : Experience.ofJson? Json.levelLimit e.toJson = some e

theorem Legible.read_eq {e : Experience} (h : Legible e) : experience? e.toJson.compact = some e := by
  rw [experience?, h.proper.read?_compact, Option.bind_some, h.ofJson_eq]

theorem Legible.printing {e : Experience} (h : Legible e) : ∀ c ∈ e.toJson.compact, 32 ≤ c.toNat :=
  h.proper.compact_printing

/-- The reward has to be one that its decimal stands for. -/
theorem legible {e : Experience} (ha : e.action.Sized) (hf : e.reward.isFinite = true)
    (hs : (Numeral.ofFloat e.reward).Proper)
    (hx : (Numeral.ofFloat e.reward).toFloat? = some e.reward) : Legible e where
  proper := Experience.proper_toJson hf hs
  -- a line may be 127 levels deep, and an experience takes five of them
  ofJson_eq := Experience.ofJson?_toJson ha hf hx 122

theorem legible_of_score {e : Experience} (ha : e.action.Sized) {s : Snapshot} {a : Action}
    {o : Outcome} (hr : e.reward = ShapedReward.score s a o) : Legible e := by
  obtain ⟨hs, hx⟩ := ShapedReward.rewards_exact _ (ShapedReward.score_mem s a o)
  have hf := ShapedReward.score_isFinite s a o
  rw [← hr] at hs hx hf
  exact legible ha hf hs hx

theorem readLines_bytesOf {es : List Experience} (h : ∀ e ∈ es, Legible e) :
    readLines (linesOf (bytesOf es)) = .ok es := by
  induction es with
  | nil => rfl
  | cons e es ih =>
    have he := h e List.mem_cons_self
    have hr := ih fun d hd => h d (List.mem_cons_of_mem _ hd)
    rw [bytesOf_cons, linesOf_line (Text.Utf8.encode_printing he.printing), readLines,
      Text.Utf8.decode?_encode, hr]
    simp only [he.read_eq, Except.map, Option.toList_some, List.singleton_append]

/-- An experience with a reward of the default calculator is read back from the text of its line, with
every field, and the line feed that ends the line is the only one in it. -/
theorem line_reads_back (e : Experience) (haction : e.action.Sized) {s : Snapshot} {a : Action}
    {o : Outcome} (hreward : e.reward = ShapedReward.score s a o) :
    line e = e.toJson.compact ++ ['\n'] ∧ experience? e.toJson.compact = some e ∧
      '\n' ∉ e.toJson.compact ∧ '\r' ∉ e.toJson.compact := by
  have h := legible_of_score haction hreward
  refine ⟨rfl, h.read_eq, fun hn => ?_, fun hr => ?_⟩
  · exact absurd (h.printing _ hn) (by decide)
  · exact absurd (h.printing _ hr) (by decide)

/-- A text with a quote, a line break and a character beyond sixteen bits, set on the last place that
there can be. -/
theorem line_reads_back_text :
    let element : Element := ⟨none, "\u0000é", "Edit\"Text",
      ⟨⟨-2147483648, by decide, by decide⟩, default, default,
        ⟨2147483647, by decide, by decide⟩⟩, false, true⟩
    let e : Experience := {
      id := .ofNat 7
      snapshot := ⟨[element]⟩
      action := .setText (.byPosition 18446744073709551615 "Edit\"Text") "\"a\"\r\n😀"
      outcome := .failure .executionFailure "timed\tout"
      timestamp := ⟨⟨2024, 2, 29⟩, 23, 59, 60, 1, by decide⟩
      reward := -1.0 }
    e.action.Sized ∧ e.reward = ShapedReward.score e.snapshot e.action e.outcome ∧
      experience? e.toJson.compact = some e ∧ '\n' ∉ e.toJson.compact ∧ '\r' ∉ e.toJson.compact := by
  intro element e
  have haction : e.action.Sized := by decide
  have hreward : e.reward = ShapedReward.score e.snapshot e.action e.outcome := rfl
  exact ⟨haction, hreward, (line_reads_back e haction hreward).2⟩

/-- A file that can be written, with the lines of some experiences and nothing else. A file that is
missing holds none. -/
structure Holds (a : Archive) (es : List Experience) : Prop where
  open_eq : a.parentBlocked = false
  entry_eq : a.entry = .absent ∧ es = [] ∨ a.entry = .file (bytesOf es)

theorem holds_absent : ({} : Archive).Holds [] := ⟨rfl, .inl ⟨rfl, rfl⟩⟩

theorem Holds.persist {a : Archive} {es : List Experience} (h : a.Holds es)
    (batch : List Experience) :
    (a.persist batch).1.isOk = true ∧ (a.persist batch).2.Holds (es ++ batch) := by
  obtain ⟨ho, ⟨ha, rfl⟩ | hf⟩ := h
  · have hp : a.persist batch = (.ok (), { a with entry := .file (bytesOf batch) }) := by
      simp [Archive.persist, append, ho, ha]
    rw [hp]
    exact ⟨rfl, ho, .inr rfl⟩
  · have hp : a.persist batch = (.ok (), { a with entry := .file (bytesOf es ++ bytesOf batch) }) := by
      simp [Archive.persist, append, ho, hf]
    rw [hp, ← bytesOf_append]
    exact ⟨rfl, ho, .inr rfl⟩

theorem Holds.load {a : Archive} {es : List Experience} (h : a.Holds es)
    (hl : ∀ e ∈ es, Legible e) : a.load = .ok es := by
  obtain ⟨ho, ⟨ha, rfl⟩ | hf⟩ := h
  · simp [Archive.load, ho, ha]
  · simp [Archive.load, ho, hf, readLines_bytesOf hl]

end ScreenAgent.Archive
