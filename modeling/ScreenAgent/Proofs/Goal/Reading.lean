import ScreenAgent.Goal.Reader
import ScreenAgent.Proofs.Text.Search

namespace ScreenAgent

namespace WrittenPattern

theorem ofSource_source (p : WrittenPattern) : ofSource p.source = .ok p := by
  obtain ⟨source, pattern, reads⟩ := p
  unfold ofSource
  split
  · rename_i pattern' h
    obtain rfl : pattern' = pattern := Except.ok.inj (h.symm.trans reads)
    rfl
  · rename_i fault h
    cases h.symm.trans reads

theorem ofSource_eq_error_iff {source : String} {fault : Pattern.Fault} :
    ofSource source = .error fault ↔ Pattern.read source.toList = .error fault := by
  unfold ofSource
  split
  · rename_i h
    simp [h]
  · rename_i h
    rw [h]
    simp

end WrittenPattern

namespace Step

def verbs : List String := ["click", "click-text", "click-re", "type"]

/-- Steps that have a written form from which they can be told. -/
def Writable (s : Step) : Prop :=
  match s.target, s.intent with
  | .byId id, .click => id ≠ ""
  | .byText text, .click => text ≠ ""
  | .byPattern p, .click => p.source ≠ ""
  | .byId id, .setText _ => id ≠ "" ∧ '=' ∉ id.toList
  | _, .setText _ => False

/-- What stands before and after the first colon of a text. -/
def Cut (text : String) (verb rest : List Char) : Prop :=
  text.toList = verb ++ ':' :: rest ∧ ':' ∉ verb

/-- A text is the written form of a step, up to white space around the verb. -/
def Written (text : String) (s : Step) : Prop :=
  ∃ form before verb after rest, s.written? = some form ∧ Cut form verb rest ∧
    (∀ c ∈ before, Text.isBlank c = true) ∧ (∀ c ∈ after, Text.isBlank c = true) ∧
    Cut text (before ++ verb ++ after) rest

inductive Refused (text : String) : GoalError → Prop
  | colon (h : ':' ∉ text.toList) : Refused text (.missingSeparator text)
  | rest {verb : List Char} (h : Cut text verb []) : Refused text (.emptyTarget text)
  | verb {verb rest : List Char} (h : Cut text verb rest) (hr : rest ≠ [])
      (hv : String.ofList (Text.trim verb) ∉ verbs) :
      Refused text (.unknownVerb (String.ofList (Text.trim verb)))
  | equals {verb rest : List Char} (h : Cut text verb rest) (hr : rest ≠ [])
      (hv : Text.trim verb = "type".toList) (he : '=' ∉ rest) : Refused text (.missingText text)
  | id {verb input : List Char} (h : Cut text verb ('=' :: input))
      (hv : Text.trim verb = "type".toList) : Refused text (.emptyTarget text)
  | pattern {verb rest : List Char} {fault : Pattern.Fault} (h : Cut text verb rest) (hr : rest ≠ [])
      (hv : Text.trim verb = "click-re".toList) (hp : Pattern.read rest = .error fault) :
      Refused text (.invalidPattern fault)

inductive Taken (text : String) : Step → Prop
  | id {verb rest : List Char} (h : Cut text verb rest) (hr : rest ≠ [])
      (hv : Text.trim verb = "click".toList) : Taken text ⟨.byId (String.ofList rest), .click⟩
  | text {verb rest : List Char} (h : Cut text verb rest) (hr : rest ≠ [])
      (hv : Text.trim verb = "click-text".toList) :
      Taken text ⟨.byText (String.ofList rest), .click⟩
  | pattern {verb rest : List Char} {p : WrittenPattern} (h : Cut text verb rest) (hr : rest ≠ [])
      (hv : Text.trim verb = "click-re".toList) (hp : p.source = String.ofList rest) :
      Taken text ⟨.byPattern p, .click⟩
  | typing {verb id input : List Char} (h : Cut text verb (id ++ '=' :: input)) (hi : id ≠ [])
      (he : '=' ∉ id) (hv : Text.trim verb = "type".toList) :
      Taken text ⟨.byId (String.ofList id), .setText (String.ofList input)⟩

variable {text : String} {verb rest : List Char} {s : Step} {e : GoalError}

theorem Cut.splitFirst (h : Cut text verb rest) :
    Text.splitFirst [':'] text.toList = some (verb, rest) :=
  Text.splitFirst_eq_some_iff.mpr h

theorem exists_cut (h : ':' ∈ text.toList) : ∃ verb rest, Cut text verb rest :=
  let ⟨verb, rest, ht, hv⟩ := List.eq_append_cons_of_mem h
  ⟨verb, rest, ht, hv⟩

theorem Refused.read_eq (h : Refused text e) : read text = .error e := by
  cases h with
  | colon h =>
    rw [read, Text.splitFirst_eq_none_iff.mpr h]
    rfl
  | rest h =>
    rw [read, h.splitFirst]
    rfl
  | verb h hr hv =>
    simp only [verbs, List.mem_cons, List.not_mem_nil, or_false, not_or] at hv
    rw [read, h.splitFirst]
    simp [hr, hv, throw, throwThe, MonadExceptOf.throw]
  | equals h hr hv he =>
    rw [read, h.splitFirst]
    simp [hr, hv, Text.splitFirst_eq_none_iff.mpr he, throw, throwThe, MonadExceptOf.throw]
  | id h hv =>
    rw [read, h.splitFirst]
    simp [hv, Text.splitFirst, throw, throwThe, MonadExceptOf.throw]
  | @pattern verb rest fault h hr hv hp =>
    have hs : WrittenPattern.ofSource (String.ofList rest) = .error fault := by
      rwa [WrittenPattern.ofSource_eq_error_iff, String.toList_ofList]
    rw [read, h.splitFirst]
    simp [hr, hv, hs, throw, throwThe, MonadExceptOf.throw]

theorem Taken.read_eq (h : Taken text s) : read text = .ok s := by
  cases h with
  | id h hr hv =>
    rw [read, h.splitFirst]
    simp [hr, hv, pure, Except.pure]
  | text h hr hv =>
    rw [read, h.splitFirst]
    simp [hr, hv, pure, Except.pure]
  | pattern h hr hv hp =>
    rw [read, h.splitFirst]
    simp [hr, hv, ← hp, WrittenPattern.ofSource_source, pure, Except.pure]
  | typing h hi he hv =>
    rw [read, h.splitFirst]
    simp [hv, hi, Text.splitFirst_cut he, pure, Except.pure]

theorem taken_or_refused (text : String) : (∃ s, Taken text s) ∨ ∃ e, Refused text e := by
  by_cases hc : ':' ∈ text.toList
  swap
  · exact .inr ⟨_, .colon hc⟩
  obtain ⟨verb, rest, h⟩ := exists_cut hc
  by_cases hr : rest = []
  · subst hr
    exact .inr ⟨_, .rest h⟩
  by_cases hv : String.ofList (Text.trim verb) ∈ verbs
  swap
  · exact .inr ⟨_, .verb h hr hv⟩
  have hverb : ∀ v : String, String.ofList (Text.trim verb) = v → Text.trim verb = v.toList := by
    rintro v rfl
    rw [String.toList_ofList]
  simp only [verbs, List.mem_cons, List.not_mem_nil, or_false] at hv
  obtain hv | hv | hv | hv := hv
  · exact .inl ⟨_, .id h hr (hverb _ hv)⟩
  · exact .inl ⟨_, .text h hr (hverb _ hv)⟩
  · cases hp : Pattern.read rest with
    | ok p =>
      have hreads : Pattern.read (String.ofList rest).toList = .ok p := by
        rwa [String.toList_ofList]
      exact .inl ⟨_, .pattern (p := ⟨String.ofList rest, p, hreads⟩) h hr (hverb _ hv) rfl⟩
    | error fault => exact .inr ⟨_, .pattern h hr (hverb _ hv) hp⟩
  · by_cases he : '=' ∈ rest
    swap
    · exact .inr ⟨_, .equals h hr (hverb _ hv) he⟩
    obtain ⟨id, input, rfl, hi⟩ := List.eq_append_cons_of_mem he
    by_cases hid : id = []
    · subst hid
      exact .inr ⟨_, .id h (hverb _ hv)⟩
    · exact .inl ⟨_, .typing h hid hi (hverb _ hv)⟩

theorem read_eq_ok_iff : read text = .ok s ↔ Taken text s := by
  refine ⟨fun h => ?_, Taken.read_eq⟩
  obtain ⟨t, ht⟩ | ⟨e, he⟩ := taken_or_refused text
  · obtain rfl := Except.ok.inj (h.symm.trans ht.read_eq)
    exact ht
  · cases h.symm.trans he.read_eq

theorem read_eq_error_iff : read text = .error e ↔ Refused text e := by
  refine ⟨fun h => ?_, Refused.read_eq⟩
  obtain ⟨t, ht⟩ | ⟨f, hf⟩ := taken_or_refused text
  · cases h.symm.trans ht.read_eq
  · obtain rfl := Except.error.inj (h.symm.trans hf.read_eq)
    exact hf

theorem Cut.unique {verb' rest' : List Char} (h : Cut text verb rest) (h' : Cut text verb' rest') :
    verb = verb' ∧ rest = rest' := by
  have he := h.splitFirst.symm.trans h'.splitFirst
  exact Prod.mk.inj (Option.some.inj he)

theorem cut_append {verb : String} (hv : ':' ∉ verb.toList) (rest : String) :
    Cut (verb ++ ":" ++ rest) verb.toList rest.toList :=
  ⟨by simp, hv⟩

theorem verbs_plain : ∀ word ∈ verbs, ':' ∉ word.toList ∧
    ∀ c ∈ word.toList, Text.isBlank c = false := by
  have hv : ∀ word ∈ verbs, ':' ∉ word.toList ∧ word.toList.any Text.isBlank = false := by decide
  intro word hw
  obtain ⟨hcolon, hblank⟩ := hv word hw
  exact ⟨hcolon, by simpa using hblank⟩

theorem written_iff {word body : String} (hw : word ∈ verbs)
    (hf : s.written? = some (word ++ ":" ++ body)) :
    Written text s ↔ ∃ verb, Cut text verb body.toList ∧ Text.trim verb = word.toList := by
  obtain ⟨hcolon, hplain⟩ := verbs_plain word hw
  constructor
  · rintro ⟨form, before, verb, after, rest, hform, hcut, hb, ha, ht⟩
    obtain rfl := Option.some.inj (hf.symm.trans hform)
    obtain ⟨rfl, rfl⟩ := hcut.unique (cut_append hcolon body)
    exact ⟨_, ht, Text.trim_blanks hb hplain ha⟩
  · rintro ⟨verb, ht, hv⟩
    obtain ⟨before, after, hb, ha, hverb⟩ := Text.exists_trim verb
    rw [hv] at hverb
    rw [hverb] at ht
    exact ⟨_, before, _, after, _, hf, cut_append hcolon body, hb, ha, ht⟩

theorem written_click (id : String) :
    Written text ⟨.byId id, .click⟩ ↔
      ∃ verb, Cut text verb id.toList ∧ Text.trim verb = "click".toList :=
  written_iff (by decide) rfl

theorem written_clickText (t : String) :
    Written text ⟨.byText t, .click⟩ ↔
      ∃ verb, Cut text verb t.toList ∧ Text.trim verb = "click-text".toList :=
  written_iff (by decide) rfl

theorem written_clickPattern (p : WrittenPattern) :
    Written text ⟨.byPattern p, .click⟩ ↔
      ∃ verb, Cut text verb p.source.toList ∧ Text.trim verb = "click-re".toList :=
  written_iff (by decide) rfl

theorem written?_type (id input : String) : Step.written? ⟨.byId id, .setText input⟩ =
    some ("type" ++ ":" ++ (id ++ "=" ++ input)) := by
  simp [written?, String.append_assoc]

theorem written_type (id input : String) :
    Written text ⟨.byId id, .setText input⟩ ↔
      ∃ verb, Cut text verb (id.toList ++ '=' :: input.toList) ∧
        Text.trim verb = "type".toList := by
  rw [written_iff (by decide) (written?_type id input)]
  simp

/-- What is read is the written form of a step that has one, and every such form is read. -/
theorem taken_iff : Taken text s ↔ s.Writable ∧ Written text s := by
  constructor
  · intro h
    cases h with
    | @id verb rest h hr hv =>
      refine ⟨mt String.ofList_eq_empty_iff.mp hr, (written_click _).mpr ⟨verb, ?_, hv⟩⟩
      rwa [String.toList_ofList]
    | @text verb rest h hr hv =>
      refine ⟨mt String.ofList_eq_empty_iff.mp hr, (written_clickText _).mpr ⟨verb, ?_, hv⟩⟩
      rwa [String.toList_ofList]
    | @pattern verb rest p h hr hv hp =>
      have hs : p.source ≠ "" := hp ▸ mt String.ofList_eq_empty_iff.mp hr
      refine ⟨hs, (written_clickPattern p).mpr ⟨verb, ?_, hv⟩⟩
      rwa [hp, String.toList_ofList]
    | @typing verb id input h hi he hv =>
      have hw : '=' ∉ (String.ofList id).toList := by rwa [String.toList_ofList]
      refine ⟨⟨mt String.ofList_eq_empty_iff.mp hi, hw⟩, (written_type _ _).mpr ⟨verb, ?_, hv⟩⟩
      rwa [String.toList_ofList, String.toList_ofList]
  · rintro ⟨hw, h⟩
    obtain ⟨target, intent⟩ := s
    cases target with
    | byId id =>
      cases intent with
      | click =>
        obtain ⟨verb, ht, hv⟩ := (written_click id).mp h
        have hread := Taken.id ht (mt String.toList_eq_nil_iff.mp hw) hv
        rwa [String.ofList_toList] at hread
      | setText input =>
        obtain ⟨verb, ht, hv⟩ := (written_type id input).mp h
        have hread := Taken.typing ht (mt String.toList_eq_nil_iff.mp hw.1) hw.2 hv
        rwa [String.ofList_toList, String.ofList_toList] at hread
    | byText t =>
      cases intent with
      | click =>
        obtain ⟨verb, ht, hv⟩ := (written_clickText t).mp h
        have hread := Taken.text ht (mt String.toList_eq_nil_iff.mp hw) hv
        rwa [String.ofList_toList] at hread
      | setText input => exact hw.elim
    | byPattern p =>
      cases intent with
      | click =>
        obtain ⟨verb, ht, hv⟩ := (written_clickPattern p).mp h
        exact Taken.pattern ht (mt String.toList_eq_nil_iff.mp hw) hv (String.ofList_toList ..).symm
      | setText input => exact hw.elim

theorem Writable.exists_form (h : s.Writable) :
    ∃ word ∈ verbs, ∃ body, s.written? = some (word ++ ":" ++ body) := by
  obtain ⟨target, intent⟩ := s
  cases intent with
  | click =>
    cases target with
    | byId id => exact ⟨"click", by decide, id, rfl⟩
    | byText t => exact ⟨"click-text", by decide, t, rfl⟩
    | byPattern p => exact ⟨"click-re", by decide, p.source, rfl⟩
  | setText input =>
    cases target with
    | byId id => exact ⟨"type", by decide, _, written?_type id input⟩
    | byText t => exact h.elim
    | byPattern p => exact h.elim

theorem Writable.read_written (h : s.Writable) :
    ∃ form, s.written? = some form ∧ read form = .ok s := by
  obtain ⟨word, hw, body, hf⟩ := h.exists_form
  obtain ⟨hcolon, hplain⟩ := verbs_plain word hw
  have hb : ∀ c ∈ ([] : List Char), Text.isBlank c = true := nofun
  have htrim : Text.trim word.toList = word.toList := by
    simpa using Text.trim_blanks hb hplain hb
  have hwritten : Written (word ++ ":" ++ body) s :=
    (written_iff hw hf).mpr ⟨_, cut_append hcolon body, htrim⟩
  exact ⟨_, hf, (taken_iff.mpr ⟨h, hwritten⟩).read_eq⟩

theorem Writable.written?_inj {t : Step} (hs : s.Writable) (ht : t.Writable)
    (h : s.written? = t.written?) : s = t := by
  obtain ⟨form, hf, hread⟩ := hs.read_written
  obtain ⟨form', hf', hread'⟩ := ht.read_written
  obtain rfl : form = form' := Option.some.inj (hf.symm.trans (h.trans hf'))
  exact Except.ok.inj (hread.symm.trans hread')

end Step

namespace Goal

variable {text : String} {texts : List String} {s : Step} {g : Goal} {e : GoalError}

theorem read_cons_ok (h : Step.read text = .ok s) :
    Goal.read (text :: texts) = (Goal.read texts).map fun g => ⟨s :: g.steps⟩ := by
  simp only [Goal.read, List.mapM_cons, h]
  cases texts.mapM Step.read <;> rfl

theorem read_cons_error (h : Step.read text = .error e) : Goal.read (text :: texts) = .error e := by
  simp only [Goal.read, List.mapM_cons, h]
  rfl

theorem read_eq_ok_iff : Goal.read texts = .ok g ↔
    List.Forall₂ (fun text s => Step.read text = .ok s) texts g.steps := by
  obtain ⟨steps⟩ := g
  constructor
  · intro h
    induction texts generalizing steps with
    | nil =>
      obtain rfl : [] = steps := congrArg Goal.steps (Except.ok.inj h)
      exact .nil
    | cons text texts ih =>
      cases hs : Step.read text with
      | error e => cases (read_cons_error hs).symm.trans h
      | ok s =>
        rw [read_cons_ok hs] at h
        cases hr : Goal.read texts with
        | error e => simp [hr, Except.map] at h
        | ok g =>
          rw [hr] at h
          obtain rfl : s :: g.steps = steps := congrArg Goal.steps (Except.ok.inj h)
          exact .cons hs (ih g.steps hr)
  · intro h
    change List.Forall₂ _ texts steps at h
    induction h with
    | nil => rfl
    | cons hs _ ih =>
      rw [read_cons_ok hs, ih]
      rfl

theorem read_eq_error_iff : Goal.read texts = .error e ↔
    ∃ before text after, texts = before ++ text :: after ∧
      (∀ u ∈ before, ∃ s, Step.read u = .ok s) ∧ Step.read text = .error e := by
  constructor
  · intro h
    induction texts with
    | nil => cases h
    | cons text texts ih =>
      cases hs : Step.read text with
      | error f =>
        obtain rfl := Except.error.inj ((read_cons_error hs).symm.trans h)
        exact ⟨[], text, texts, rfl, nofun, hs⟩
      | ok s =>
        rw [read_cons_ok hs] at h
        cases hr : Goal.read texts with
        | ok g => simp [hr, Except.map] at h
        | error f =>
          rw [hr] at h
          obtain rfl := Except.error.inj h
          obtain ⟨before, u, after, rfl, hb, hu⟩ := ih hr
          exact ⟨text :: before, u, after, rfl, List.forall_mem_cons.mpr ⟨⟨s, hs⟩, hb⟩, hu⟩
  · rintro ⟨before, text, after, rfl, hb, hu⟩
    induction before with
    | nil => exact read_cons_error hu
    | cons u before ih =>
      obtain ⟨⟨s, hs⟩, hb⟩ := List.forall_mem_cons.mp hb
      rw [List.cons_append, read_cons_ok hs, ih hb]
      rfl

theorem exists_read_iff :
    (∃ g, Goal.read texts = .ok g) ↔ ∀ text ∈ texts, ∃ s, Step.read text = .ok s := by
  constructor
  · rintro ⟨⟨steps⟩, h⟩
    have hall : List.Forall₂ (fun text s => Step.read text = .ok s) texts steps :=
      read_eq_ok_iff.mp h
    clear h
    induction hall with
    | nil => exact nofun
    | cons hs _ ih => exact List.forall_mem_cons.mpr ⟨⟨_, hs⟩, ih⟩
  · intro h
    cases hr : Goal.read texts with
    | ok g => exact ⟨g, rfl⟩
    | error e =>
      obtain ⟨before, text, after, rfl, -, hu⟩ := read_eq_error_iff.mp hr
      obtain ⟨s, hs⟩ := h text (by simp)
      cases hs.symm.trans hu

/-- A step that has a written form is read from it and is the only one with this form, and nothing is read
but written forms with white space around the verb. Every other text is refused for the first thing that
is wrong with it. A goal is read from the texts of its steps in order, and refused for the first text
that is no step. -/
theorem reads_written :
    (∀ s : Step, s.Writable → ∃ form, s.written? = some form ∧ Step.read form = .ok s) ∧
    (∀ s t : Step, s.Writable → t.Writable → s.written? = t.written? → s = t) ∧
    (∀ text s, Step.read text = .ok s ↔ s.Writable ∧ Step.Written text s) ∧
    (∀ text e, Step.read text = .error e ↔ Step.Refused text e) ∧
    (∀ texts g, Goal.read texts = .ok g ↔
      List.Forall₂ (fun text s => Step.read text = .ok s) texts g.steps) ∧
    (∀ texts, (∃ g, Goal.read texts = .ok g) ↔ ∀ text ∈ texts, ∃ s, Step.read text = .ok s) ∧
    ∀ texts e, Goal.read texts = .error e ↔ ∃ before text after, texts = before ++ text :: after ∧
      (∀ u ∈ before, ∃ s, Step.read u = .ok s) ∧ Step.read text = .error e := by
  refine ⟨fun s h => h.read_written, fun s t hs ht => hs.written?_inj ht, fun text s => ?_,
    fun text e => Step.read_eq_error_iff, fun texts g => read_eq_ok_iff,
    fun texts => exists_read_iff, fun texts e => read_eq_error_iff⟩
  rw [Step.read_eq_ok_iff, Step.taken_iff]

end Goal

end ScreenAgent
