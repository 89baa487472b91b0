import Mathlib.Data.List.Infix
import ScreenAgent.Proofs.Bridge.Tapping
import ScreenAgent.Proofs.Text.Base64
import ScreenAgent.Proofs.Text.Search

namespace ScreenAgent

namespace Bridge

variable {device : Option String}

def askCommand : List String := ["shell", "settings", "get", "secure", "default_input_method"]

def switchCommand (ime : String) : List String := ["shell", "ime", "set", ime]

def typeCommand (payload : String) : List String :=
  ["shell", "am", "broadcast", "-a", "ADB_INPUT_B64", "--es", "msg", payload]

def clearCommand : List String := ["shell", "am", "broadcast", "-a", "ADB_CLEAR_TEXT"]

/-- The commands that make the keyboard of the bridge ready, if `ime` is the input method. An empty text
wakes the keyboard up. -/
def borrowingLine (ime : String) : List (List String) :=
  askCommand :: (if keyboard.toList <:+: ime.toList then [] else [switchCommand keyboard]) ++
    [typeCommand ""]

def openingLine (place : Point) (ime : String) : List (List String) :=
  tapCommand place :: borrowingLine ime

def fillingLine (payload : String) : List (List String) := [clearCommand, typeCommand payload]

def closingLine (ime : String) : List (List String) :=
  if ime ≠ "" ∧ ¬ keyboard.toList <:+: ime.toList then [switchCommand ime] else []

def enteringLines (place : Point) (ime payload : String) : List (List String) :=
  openingLine place ime ++ fillingLine payload ++ closingLine ime

theorem mem_enteringLines {place : Point} {ime payload : String} {c : List String}
    (h : c ∈ enteringLines place ime payload) :
    c = tapCommand place ∨ c = askCommand ∨ c = switchCommand keyboard ∨ c = typeCommand "" ∨
      c = clearCommand ∨ c = typeCommand payload ∨ c = switchCommand ime := by
  simp only [enteringLines, openingLine, borrowingLine, fillingLine, closingLine] at h
  split at h <;> split at h <;> simp at h <;> tauto

theorem head?_of_mem_enteringLines {place : Point} {ime payload : String} {c : List String}
    (h : c ∈ enteringLines place ime payload) : c.head? = some "shell" := by
  obtain rfl | rfl | rfl | rfl | rfl | rfl | rfl := mem_enteringLines h <;> rfl

theorem isArgument_of_mem_switchCommand {ime : String} (h : IsArgument ime) :
    ∀ s ∈ switchCommand ime, IsArgument s := by
  have hwords : ∀ s ∈ ["shell", "ime", "set"], IsArgument s := by decide
  exact List.forall_mem_append.mpr ⟨hwords, List.forall_mem_singleton.mpr h⟩

theorem isArgument_of_mem_enteringLines {place : Point} {ime payload : String} {c : List String}
    (hi : IsArgument ime) (hp : IsArgument payload) (h : c ∈ enteringLines place ime payload) :
    ∀ s ∈ c, IsArgument s := by
  have htype : ∀ s ∈ ["shell", "am", "broadcast", "-a", "ADB_INPUT_B64", "--es", "msg"],
      IsArgument s := by decide
  obtain rfl | rfl | rfl | rfl | rfl | rfl | rfl := mem_enteringLines h
  · exact isArgument_of_mem_tapCommand
  · decide
  · decide
  · decide
  · decide
  · exact List.forall_mem_append.mpr ⟨htype, List.forall_mem_singleton.mpr hp⟩
  · exact isArgument_of_mem_switchCommand hi

theorem isKeyboard_eq (ime : String) : isKeyboard ime = decide (keyboard.toList <:+: ime.toList) := by
  rw [Bool.eq_iff_iff, decide_eq_true_iff]
  exact Text.holds_iff

theorem keeps_setKeyboard (ime : String) :
    Keeps device [switchCommand ime] (setKeyboard device ime) () :=
  keeps_command _

theorem keeps_clearText : Keeps device [clearCommand] (clearText device) () :=
  keeps_command _

/-- What is typed can be read back from the command. -/
theorem keeps_typeText (device : Option String) (text : String) : ∃ payload : String,
    Text.Base64.decode? payload.toList = some (Text.Utf8.encode text.toList) ∧
      IsArgument payload ∧ Keeps device [typeCommand payload] (typeText device text) () := by
  refine ⟨_, ?_, ?_, keeps_command _⟩
  · rw [String.toList_ofList, Text.Base64.decode?_encode]
  · rw [IsArgument, String.toList_ofList]
    exact Text.Base64.nul_not_mem_encode _

theorem keeps_wakeUp : Keeps device [typeCommand ""] (typeText device "") () :=
  keeps_command _

theorem keeps_restoreKeyboard (ime : String) :
    Keeps device (closingLine ime) (restoreKeyboard device ime) () := by
  rw [closingLine, restoreKeyboard, isKeyboard_eq]
  by_cases h : ime ≠ "" ∧ ¬ keyboard.toList <:+: ime.toList
  · have hr : ime ≠ "" ∧ (!decide (keyboard.toList <:+: ime.toList)) = true :=
      ⟨h.1, by rw [decide_eq_false h.2]; rfl⟩
    rw [if_pos h, if_pos hr]
    exact keeps_setKeyboard ime
  · have hr : ¬ (ime ≠ "" ∧ (!decide (keyboard.toList <:+: ime.toList)) = true) := by
      simpa using h
    rw [if_neg h, if_neg hr]
    exact keeps_pure ()

theorem target_prefix_iff {c : List String} (h : c.head? = some "shell") {id : String} :
    ["-s", id] <+: addressed device c ↔ device = some id := by
  obtain ⟨rest, rfl⟩ : ∃ rest, c = "shell" :: rest := by
    cases c with
    | nil => cases h
    | cons s rest => exact ⟨rest, by rw [Option.some.inj h]⟩
  cases device with
  | none => simp [addressed]
  | some d => simp [addressed, eq_comm]

/-- The input method that was read, by the attempt to ask for it. -/
def readKeyboard : List Attempt → String
  | ask :: _ => String.ofList (Text.trim ask.output)
  | [] => ""

theorem keeps_ready (ime : String) :
    Keeps device ((if keyboard.toList <:+: ime.toList then [] else [switchCommand keyboard]) ++
      [typeCommand ""]) (do
        if !isKeyboard ime then setKeyboard device keyboard
        typeText device ""
        return ime) ime := by
  have hend : Keeps device [typeCommand ""] (typeText device "" >>= fun _ => pure ime) ime :=
    keeps_wakeUp.bind (keeps_pure ime)
  rw [isKeyboard_eq]
  by_cases h : keyboard.toList <:+: ime.toList
  · rw [if_pos h, decide_eq_true h]
    exact hend
  · rw [if_neg h, decide_eq_false h]
    exact (keeps_setKeyboard keyboard).bind hend

theorem runs_borrowKeyboard {runs : List Attempt} {r : Except Mishap String}
    (h : (borrowKeyboard device).outcome.Runs runs r) :
    ∃ attempts stop, Launched attempts runs ∧
      Follows device (borrowingLine (readKeyboard attempts)) attempts stop ∧
      r = ending (readKeyboard attempts) stop := by
  obtain ⟨m, hr, rfl⟩ | ⟨before, out, after, rfl, hr, hrest⟩ := runs_bind h
  · obtain ⟨answer, e, hl, hv, rfl⟩ := runs_command_error hr
    exact ⟨_, some e, hl, .failed hv, rfl⟩
  · obtain ⟨answer, hl, hv⟩ := runs_command_ok hr
    have ho := (succeeded_of_verdict (addressed device askCommand) hv).2
    subst ho
    obtain ⟨attempts, stop, hl', hfollows, rfl⟩ := keeps_ready _ _ _ hrest
    exact ⟨_, stop, hl.append hl', .went hv hfollows, rfl⟩

theorem runs_filling {ime payload text : String} {runs : List Attempt} {r : Except Mishap Unit}
    (ht : Keeps device [typeCommand payload] (typeText device text) ())
    (h : Bridge.outcome (do
      let typed ← (Bridge.attempt do
        clearText device
        typeText device text)
      let _ ← (restoreKeyboard device ime).attempt
      ExceptT.mk (pure typed)) |>.Runs runs r) :
    ∃ filling closing stop stop', Launched (filling ++ closing) runs ∧
      Follows device (fillingLine payload) filling stop ∧
      Follows device (closingLine ime) closing stop' ∧ r = ending () stop := by
  have hfill : Keeps device (fillingLine payload) (do
      clearText device
      typeText device text) () := keeps_clearText.bind ht
  obtain ⟨m, hf, rfl⟩ | ⟨before, typed, after, rfl, hf, hrest⟩ := runs_bind h
  · obtain ⟨_, hm, -⟩ := runs_lift hf
    cases hm
  obtain ⟨_, hm, hf⟩ := runs_lift hf
  cases hm
  obtain ⟨m, hc, rfl⟩ | ⟨middle, restored, last, rfl, hc, hend⟩ := runs_bind hrest
  · obtain ⟨_, hm, -⟩ := runs_lift hc
    cases hm
  obtain ⟨_, hm, hc⟩ := runs_lift hc
  cases hm
  obtain ⟨rfl, rfl⟩ := Dialog.runs_pure_iff.mp hend
  obtain ⟨filling, stop, hl, hfollows, rfl⟩ := hfill _ _ hf
  obtain ⟨closing, stop', hl', hfollows', -⟩ := keeps_restoreKeyboard ime _ _ hc
  rw [List.append_nil]
  exact ⟨filling, closing, stop, stop', hl.append hl', hfollows, hfollows', rfl⟩

/-- How a text is entered. An opening that fails is all there is; behind one that is completed the field
is filled, and whatever came of that, which is the answer, the keyboard is restored. -/
inductive Enters (device : Option String) (place : Point) (payload : String) :
    (opening filling closing : List Attempt) → (answer : Answer Unit) → Prop
  | failed {opening : List Attempt} {e : BridgeError}
      (h : Follows device (openingLine place (readKeyboard opening.tail)) opening (some e)) :
      Enters device place payload opening [] [] (.fault (.rejected e.message))
  | opened {opening filling closing : List Attempt} {stop stop' : Option BridgeError}
      (h : Follows device (openingLine place (readKeyboard opening.tail)) opening none)
      (hf : Follows device (fillingLine payload) filling stop)
      (hc : Follows device (closingLine (readKeyboard opening.tail)) closing stop') :
      Enters device place payload opening filling closing (reported stop)

namespace Enters

variable {place : Point} {payload : String} {opening filling closing : List Attempt}
  {answer : Answer Unit}

theorem answer_eq_ok_iff (h : Enters device place payload opening filling closing answer) :
    answer = .ok () ↔ Completed (opening ++ filling) := by
  cases h with
  | failed h => simpa using h.completed_iff
  | opened h hf hc => rw [reported_eq_ok_iff, (h.append hf).completed_iff]

theorem answer_ne_ok (h : Enters device place payload opening filling closing answer)
    (hn : answer ≠ .ok ()) : ∃ reason, answer = .fault (.rejected reason) := by
  cases h with
  | failed h => exact ⟨_, rfl⟩
  | opened h hf hc => exact reported_of_ne_ok hn

theorem answer_ne_overflow (h : Enters device place payload opening filling closing answer) :
    answer ≠ .overflow := by
  rintro rfl
  obtain ⟨reason, hr⟩ := h.answer_ne_ok nofun
  cases hr

/-- Where emptying the field fails, nothing is typed. -/
theorem not_typed (h : Enters device place payload opening filling closing answer) {clear : Attempt}
    (hm : clear ∈ filling) (ha : clear.arguments = addressed device clearCommand)
    (hs : clear.succeeded = false) : filling = [clear] := by
  cases h with
  | failed h => cases hm
  | opened h hf hc =>
    obtain ⟨rest, rfl, hrest⟩ := hf.eq_cons (by simp [clearCommand, typeCommand]) hm ha
    rw [hrest hs]

theorem exists_mem (h : Enters device place payload opening filling closing answer) {a : Attempt}
    (ha : a ∈ opening ++ filling ++ closing) :
    ∃ c ∈ enteringLines place (readKeyboard opening.tail) payload,
      a.arguments = addressed device c := by
  cases h with
  | failed h =>
    rw [List.append_nil, List.append_nil] at ha
    obtain ⟨c, hc, hac⟩ := h.exists_mem ha
    exact ⟨c, List.mem_append_left _ (List.mem_append_left _ hc), hac⟩
  | opened h hf hc =>
    obtain ha | ha := List.mem_append.mp ha
    · obtain ⟨c, hcl, hac⟩ := (h.append hf).exists_mem ha
      exact ⟨c, List.mem_append_left _ hcl, hac⟩
    · obtain ⟨c, hcl, hac⟩ := hc.exists_mem ha
      exact ⟨c, List.mem_append_right _ hcl, hac⟩

end Enters

end Bridge

namespace BridgeSurface

open Bridge

variable {device : Option String} {e : Element} {text : String} {δ : Type} [Host δ]

theorem runs_enterText {payload : String} {runs : List Attempt} {r : Except Mishap Unit}
    {tapped : List Attempt} {place : Bridge.Point}
    (ht : Keeps device [typeCommand payload] (typeText device text) ())
    (htap : Follows device [tapCommand place] tapped none)
    (h : (enterText device text).outcome.Runs runs r) :
    ∃ borrowing filling closing, Launched (borrowing ++ filling ++ closing) runs ∧
      Enters device place payload (tapped ++ borrowing) filling closing (answerOf .rejected r) := by
  obtain ⟨answer, rfl⟩ := htap.singleton
  obtain ⟨m, hb, rfl⟩ | ⟨before, ime, after, rfl, hb, hrest⟩ := runs_bind h
  · obtain ⟨borrowing, stop, hl, hf, hstop⟩ := runs_borrowKeyboard hb
    cases stop with
    | none => cases hstop
    | some e =>
      cases hstop
      exact ⟨borrowing, [], [], by simpa using hl, .failed (htap.append hf)⟩
  · obtain ⟨borrowing, stop, hl, hf, hstop⟩ := runs_borrowKeyboard hb
    cases stop with
    | some e => cases hstop
    | none =>
      cases hstop
      obtain ⟨filling, closing, stop, stop', hl', hfill, hclose, rfl⟩ := runs_filling ht hrest
      rw [answerOf_ending]
      exact ⟨borrowing, filling, closing, by rw [List.append_assoc]; exact hl.append hl',
        .opened (htap.append hf) hfill hclose⟩

theorem runs_setText {runs : List Attempt} {answer : Answer Unit} (hm : e.bounds.Measurable)
    (ha : e.bounds.HasArea) {place : Bridge.Point} (hp : e.bounds.center? = some place)
    (h : (setText device e text).Runs runs answer) :
    ∃ payload opening filling closing,
      Text.Base64.decode? payload.toList = some (Text.Utf8.encode text.toList) ∧
      IsArgument payload ∧ Launched (opening ++ filling ++ closing) runs ∧
      Enters device place payload opening filling closing answer := by
  obtain ⟨payload, hdecode, hargument, ht⟩ := keeps_typeText device text
  obtain ⟨before, r, after, rfl, htap, hrest⟩ := Dialog.runs_bind h
  obtain ⟨tapped, stop, hl, hf, rfl⟩ := runs_tapElement hm ha hp htap
  cases stop with
  | some e =>
    obtain ⟨rfl, rfl⟩ := Dialog.runs_pure_iff.mp hrest
    exact ⟨payload, tapped, [], [], hdecode, hargument, by simpa using hl,
      .failed (hf.append_failed _)⟩
  | none =>
    obtain ⟨middle, r, last, rfl, henter, hend⟩ := Dialog.runs_bind hrest
    obtain ⟨rfl, rfl⟩ := Dialog.runs_pure_iff.mp hend
    obtain ⟨borrowing, filling, closing, hl', henters⟩ := runs_enterText ht hf henter
    refine ⟨payload, tapped ++ borrowing, filling, closing, hdecode, hargument, ?_, henters⟩
    rw [List.append_nil]
    simpa only [List.append_assoc] using hl.append hl'

theorem runs_setText_of_not_measurable {runs : List Attempt} {answer : Answer Unit}
    (hm : ¬ e.bounds.Measurable) (h : (setText device e text).Runs runs answer) :
    runs = [] ∧ answer = .overflow := by
  rw [setText, tapElement_of_not_measurable hm] at h
  exact Dialog.runs_pure_iff.mp h

theorem runs_setText_of_not_hasArea {runs : List Attempt} {answer : Answer Unit}
    (hm : e.bounds.Measurable) (ha : ¬ e.bounds.HasArea)
    (h : (setText device e text).Runs runs answer) :
    runs = [] ∧ answer = .fault (.rejected (e.elementClass ++ " has no on-screen area")) := by
  rw [setText, tapElement_of_not_hasArea hm ha] at h
  exact Dialog.runs_pure_iff.mp h

theorem runs_setText_nil_or_enters {runs : List Attempt} {answer : Answer Unit}
    (h : (setText device e text).Runs runs answer) :
    runs = [] ∨ e.bounds.HasArea ∧ ∃ place payload opening filling closing,
      Launched (opening ++ filling ++ closing) runs ∧
      Enters device place payload opening filling closing answer := by
  by_cases hm : e.bounds.Measurable
  · by_cases ha : e.bounds.HasArea
    · obtain ⟨x, y, hp, -⟩ := Bounds.center?_inside hm ha
      obtain ⟨payload, opening, filling, closing, -, -, hl, henters⟩ := runs_setText hm ha hp h
      exact .inr ⟨ha, _, payload, opening, filling, closing, hl, henters⟩
    · exact .inl (runs_setText_of_not_hasArea hm ha h).1
  · exact .inl (runs_setText_of_not_measurable hm h).1

/-- What is run to enter a text, and the answer: everything but the closing has to succeed. Without an
area nothing is run and the text is refused. If the bounds can not be measured there is no answer, and
nothing is run then, be there an area or not. -/
theorem enters_exactly (device : Option String) (e : Element) (text : String) (h : δ) :
    let run := (setText device e text).play (⟨h, []⟩ : Recorded δ)
    (setText device e text).play h = (run.1, run.2.host) ∧
    (run.1 = .overflow ↔ ¬ e.bounds.Measurable) ∧
    (¬ e.bounds.Measurable → run.2.runs = []) ∧
    (e.bounds.Measurable → ¬ e.bounds.HasArea →
      run.1 = .fault (.rejected (e.elementClass ++ " has no on-screen area")) ∧ run.2.runs = []) ∧
    (e.bounds.Measurable → e.bounds.HasArea →
      ∃ (place : Bridge.Point) (payload : String) (opening filling closing : List Attempt),
        let ime := readKeyboard opening.tail
        let attempts := opening ++ filling ++ closing
        e.bounds.center? = some place ∧
        Text.Base64.decode? payload.toList = some (Text.Utf8.encode text.toList) ∧
        Enters device place payload opening filling closing run.1 ∧
        (run.1 = .ok () ↔ Completed (opening ++ filling)) ∧
        (run.1 ≠ .ok () → ∃ reason, run.1 = .fault (.rejected reason)) ∧
        (∀ clear ∈ filling, clear.arguments = addressed device clearCommand →
          clear.succeeded = false → filling = [clear]) ∧
        (∀ a ∈ attempts, ∀ id, ["-s", id] <+: a.arguments ↔ device = some id) ∧
        Launched attempts run.2.runs ∧
        ((∀ id ∈ device, IsArgument id) → IsArgument ime → run.2.runs = attempts)) := by
  intro run
  obtain ⟨runs, hplay, hruns⟩ := Dialog.exists_runs (setText device e text) h
  have hrun : run = _ := hplay
  rw [hrun]
  refine ⟨rfl, ⟨fun ho hm => ?_, fun hm => ?_⟩, fun hm => ?_, fun hm ha => ?_, fun hm ha => ?_⟩
  · by_cases ha : e.bounds.HasArea
    · obtain ⟨x, y, hp, -⟩ := Bounds.center?_inside hm ha
      obtain ⟨payload, opening, filling, closing, -, -, -, henters⟩ := runs_setText hm ha hp hruns
      exact henters.answer_ne_overflow ho
    · cases ho.symm.trans (runs_setText_of_not_hasArea hm ha hruns).2
  · exact (runs_setText_of_not_measurable hm hruns).2
  · exact (runs_setText_of_not_measurable hm hruns).1
  · exact (runs_setText_of_not_hasArea hm ha hruns).symm
  · obtain ⟨x, y, hp, -⟩ := Bounds.center?_inside hm ha
    obtain ⟨payload, opening, filling, closing, hdecode, hargument, hl, henters⟩ :=
      runs_setText hm ha hp hruns
    refine ⟨(x, y), payload, opening, filling, closing, hp, hdecode, henters,
      henters.answer_eq_ok_iff, henters.answer_ne_ok, fun clear hc => henters.not_typed hc,
      fun a ha id => ?_, hl, fun hid hime => hl.eq_of_forall fun a ha => ?_⟩
    · obtain ⟨c, hc, hac⟩ := henters.exists_mem ha
      rw [hac]
      exact target_prefix_iff (head?_of_mem_enteringLines hc)
    · obtain ⟨c, hc, hac⟩ := henters.exists_mem ha
      obtain ⟨arguments, answer⟩ := a
      obtain rfl : arguments = addressed device c := hac
      exact isLaunched_addressed.mpr ⟨hid, isArgument_of_mem_enteringLines hime hargument hc⟩

/-- The field has an area, so it is to be tapped and filled. But its width is no coordinate: nothing is
run, and the text is neither entered nor refused. -/
theorem entering_overflows :
    let edge : Coordinate := ⟨1073741824, by decide, by decide⟩
    let e : Element := { (default : Element) with
      bounds := ⟨⟨-1073741824, by decide, by decide⟩, default, edge, ⟨10, by decide, by decide⟩⟩ }
    let run := (setText none e "x").play (⟨{ replies := [] }, []⟩ : Recorded Script)
    e.bounds.HasArea ∧ run.1 ≠ .ok () ∧ (∀ reason, run.1 ≠ .fault (.rejected reason)) ∧
      run.2.runs = [] := by
  intro edge e run
  have hm : ¬ e.bounds.Measurable := by decide
  have hrun : run = (.overflow, ⟨{ replies := [] }, []⟩) := by
    simp only [run, setText, tapElement_of_not_measurable hm]
    rfl
  rw [hrun]
  exact ⟨by decide, nofun, nofun, rfl⟩

/-- The field can not be emptied, so nothing is typed, but the keyboard is restored. -/
example :
    let e : Element := { (default : Element) with
      bounds := ⟨default, default, ⟨10, by decide, by decide⟩, ⟨10, by decide, by decide⟩⟩ }
    let s : Script := { replies := [{}, { output := Text.Utf8.encode "latin".toList }, {}, {},
      { status := 1 }] }
    ((setText none e "x").play (⟨s, []⟩ : Recorded Script)).2.runs.map Attempt.arguments =
      [["shell", "input", "tap", "5", "5"], askCommand, switchCommand keyboard, typeCommand "",
        clearCommand, switchCommand "latin"] := by
  decide +kernel

end BridgeSurface

end ScreenAgent
