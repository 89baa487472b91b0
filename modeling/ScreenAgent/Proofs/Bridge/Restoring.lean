import ScreenAgent.Proofs.Bridge.Typing

namespace ScreenAgent

namespace Bridge

variable {device : Option String} {ime : String}

/-- Runs that have switched from an input method to the keyboard of the bridge. -/
structure Switched (device : Option String) (ime : String) (runs : List Attempt) : Prop where
  asked : ∃ ask ∈ runs, ask.arguments = addressed device askCommand ∧
    ime = String.ofList (Text.trim ask.output)
  switched : ∃ switch ∈ runs, switch.arguments = addressed device (switchCommand keyboard) ∧
    switch.succeeded = true
  ne_empty : ime ≠ ""
  other : ¬ keyboard.toList <:+: ime.toList

theorem switched_iff {runs : List Attempt} : Switched device ime runs ↔
    (∃ ask ∈ runs, ask.arguments = addressed device askCommand ∧
      ime = String.ofList (Text.trim ask.output)) ∧
    (∃ switch ∈ runs, switch.arguments = addressed device (switchCommand keyboard) ∧
      switch.succeeded = true) ∧ ime ≠ "" ∧ ¬ keyboard.toList <:+: ime.toList :=
  ⟨fun h => ⟨h.asked, h.switched, h.ne_empty, h.other⟩, fun h => ⟨h.1, h.2.1, h.2.2.1, h.2.2.2⟩⟩

instance (runs : List Attempt) : Decidable (Switched device ime runs) :=
  decidable_of_iff _ switched_iff.symm

/-- Runs that switch to an input method once, and in the end. -/
def Restores (device : Option String) (ime : String) (runs : List Attempt) : Prop :=
  ∃ before restore, runs = before ++ [restore] ∧
    restore.arguments = addressed device (switchCommand ime) ∧
    ∀ a ∈ before, a.arguments ≠ addressed device (switchCommand ime)

def Woken (device : Option String) (runs : List Attempt) : Prop :=
  ∃ wake ∈ runs, wake.arguments = addressed device (typeCommand "") ∧ wake.succeeded = true

instance (runs : List Attempt) : Decidable (Woken device runs) :=
  inferInstanceAs (Decidable (∃ wake ∈ runs, _))

theorem Restores.exists_mem {runs : List Attempt} (h : Restores device ime runs) :
    ∃ restore ∈ runs, restore.arguments = addressed device (switchCommand ime) := by
  obtain ⟨before, restore, rfl, hr, -⟩ := h
  exact ⟨restore, List.mem_append_right _ List.mem_cons_self, hr⟩

theorem Switched.closingLine_eq {runs : List Attempt} (h : Switched device ime runs) :
    closingLine ime = [switchCommand ime] :=
  if_pos ⟨h.ne_empty, h.other⟩

theorem Switched.not_mem {runs : List Attempt} (h : Switched device ime runs) (place : Point)
    (payload : String) :
    switchCommand ime ∉ openingLine place ime ++ fillingLine payload := by
  have hne : ime ≠ keyboard := fun he => h.other (by rw [he])
  simp [openingLine, borrowingLine, fillingLine, switchCommand, tapCommand, askCommand, typeCommand,
    clearCommand, h.other, hne]

theorem openingLine_eq (place : Point) (ime : String) :
    ∃ line, openingLine place ime = line ++ [typeCommand ""] ∧ typeCommand "" ∉ line := by
  refine ⟨tapCommand place :: askCommand ::
    (if keyboard.toList <:+: ime.toList then [] else [switchCommand keyboard]), rfl, ?_⟩
  split <;> simp [typeCommand, tapCommand, askCommand, switchCommand]

theorem Follows.readKeyboard_eq {place : Point} {opening : List Attempt} {stop : Option BridgeError}
    (h : Follows device (openingLine place ime) opening stop) {ask : Attempt} (ha : ask ∈ opening)
    (hask : ask.arguments = addressed device askCommand) :
    readKeyboard opening.tail = String.ofList (Text.trim ask.output) := by
  have hne : tapCommand place ≠ askCommand := by simp [tapCommand, askCommand]
  have htap {answer : Except LaunchError Reply} :
      ask ≠ ⟨addressed device (tapCommand place), answer⟩ := by
    rintro rfl
    exact hne (addressed_inj.mp hask)
  cases h with
  | failed hv => exact absurd (List.mem_singleton.mp ha) htap
  | went hv hr =>
    have hmem := (List.mem_cons.mp ha).resolve_left htap
    have hrest : askCommand ∉
        (if keyboard.toList <:+: ime.toList then [] else [switchCommand keyboard]) ++
          [typeCommand ""] := by
      split <;> simp [askCommand, typeCommand, switchCommand]
    obtain ⟨rest, rfl, -⟩ := hr.eq_cons hrest hmem hask
    rfl

theorem Enters.readKeyboard_eq {place : Point} {payload : String}
    {opening filling closing : List Attempt} {answer : Answer Unit}
    (h : Enters device place payload opening filling closing answer) {ask : Attempt}
    (ha : ask ∈ opening ++ filling ++ closing)
    (hask : ask.arguments = addressed device askCommand) :
    readKeyboard opening.tail = String.ofList (Text.trim ask.output) := by
  cases h with
  | failed h =>
    rw [List.append_nil, List.append_nil] at ha
    exact h.readKeyboard_eq ha hask
  | opened h hf hc =>
    have hfill : askCommand ∉ fillingLine payload := by
      simp [fillingLine, askCommand, clearCommand, typeCommand]
    have hclose : askCommand ∉ closingLine (readKeyboard opening.tail) := by
      rw [closingLine]
      split <;> simp [askCommand, switchCommand]
    have hfilling := hf.not_mem hfill hask
    have hclosing := hc.not_mem hclose hask
    refine h.readKeyboard_eq ?_ hask
    simpa [hfilling, hclosing] using ha

/-- What was woken up had been opened in full, and behind that the keyboard is restored. -/
theorem Enters.restores_iff {place : Point} {payload : String}
    {opening filling closing runs : List Attempt} {answer : Answer Unit}
    (h : Enters device place payload opening filling closing answer)
    (hl : Launched (opening ++ filling ++ closing) runs)
    (hs : Switched device (readKeyboard opening.tail) runs) :
    Restores device (readKeyboard opening.tail) runs ↔
      Woken device runs ∧ IsArgument (readKeyboard opening.tail) := by
  have hnever := hs.not_mem place payload
  obtain ⟨line, hline, hlast⟩ := openingLine_eq place (readKeyboard opening.tail)
  cases h with
  | failed h =>
    rw [List.append_nil, List.append_nil] at hl
    refine iff_of_false ?_ ?_
    · intro hr
      obtain ⟨restore, hm, hra⟩ := hr.exists_mem
      exact h.not_mem (fun hc => hnever (List.mem_append_left _ hc)) hra (hl.mem hm).1
    · rintro ⟨⟨wake, hw, hwa, hws⟩, -⟩
      rw [hline] at h
      cases h.stop_eq_none hlast (hl.mem hw).1 hwa hws
  | opened h hf hc =>
    rw [hs.closingLine_eq] at hc
    obtain ⟨answer, rfl⟩ := hc.singleton
    constructor
    · intro hr
      refine ⟨?_, ?_⟩
      · have hw : addressed device (typeCommand "") ∈ opening.map Attempt.arguments := by
          rw [h.map_arguments, hline]
          exact List.mem_map_of_mem (by simp)
        obtain ⟨wake, hm, hwa⟩ := List.mem_map.mp hw
        have hws := h.completed_iff.mpr rfl wake hm
        exact ⟨wake, hl.mem_of_succeeded (by simp [hm]) hws, hwa, hws⟩
      · obtain ⟨⟨arguments, given⟩, hm, rfl⟩ := hr.exists_mem
        have hall := (isLaunched_addressed.mp (hl.mem hm).2).2
        exact hall _ (by simp [switchCommand])
    · rintro ⟨-, hime⟩
      obtain ⟨⟨arguments, given⟩, hm, rfl, -⟩ := hs.switched
      have hid := (isLaunched_addressed.mp (hl.mem hm).2).1
      have hrun : (⟨addressed device (switchCommand (readKeyboard opening.tail)), answer⟩ :
          Attempt).isLaunched = true :=
        isLaunched_addressed.mpr ⟨hid, isArgument_of_mem_switchCommand hime⟩
      refine ⟨(opening ++ filling).filter Attempt.isLaunched, ⟨_, answer⟩, ?_, rfl,
        fun a ha hac => ?_⟩
      · rw [hl.runs_eq, List.filter_append, List.filter_singleton, hrun]
        rfl
      · exact (h.append hf).not_mem hnever hac (List.mem_filter.mp ha).1

end Bridge

namespace BridgeSurface

open Bridge

variable {δ : Type} [Host δ]

/-- A keyboard that was switched away from is switched back to, once and in the end, exactly if the
keyboard of the bridge could be woken up (and the name that was read can be passed on). -/
theorem restores_iff_woken (device : Option String) (e : Element) (text : String) (h : δ)
    (ime : String)
    (hs : Switched device ime
      ((setText device e text).play (⟨h, []⟩ : Recorded δ)).2.runs) :
    let runs := ((setText device e text).play (⟨h, []⟩ : Recorded δ)).2.runs
    Restores device ime runs ↔ Woken device runs ∧ IsArgument ime := by
  obtain ⟨runs, hplay, hruns⟩ := Dialog.exists_runs (setText device e text) h
  rw [hplay] at hs
  rw [hplay]
  intro runs'
  obtain ⟨ask, hask, haska, rfl⟩ := hs.asked
  obtain rfl | ⟨-, place, payload, opening, filling, closing, hl, henters⟩ :=
    runs_setText_nil_or_enters hruns
  · cases hask
  · have hread := henters.readKeyboard_eq (hl.mem hask).1 haska
    rw [← hread] at hs ⊢
    exact henters.restores_iff hl hs

/-- Emptying the field fails, and the keyboard is switched back to. -/
theorem restores_iff_woken_unfilled :
    let ime := "com.google.android.inputmethod.latin/.LatinIME"
    let e : Element := { (default : Element) with
      bounds := ⟨default, default, ⟨10, by decide, by decide⟩, ⟨10, by decide, by decide⟩⟩ }
    let s : Script := { replies := [{}, { output := Text.Utf8.encode ime.toList }, {}, {},
      { status := 1 }] }
    Switched none ime ((setText none e "x").play (⟨s, []⟩ : Recorded Script)).2.runs ∧
    Woken none ((setText none e "x").play (⟨s, []⟩ : Recorded Script)).2.runs ∧
    Restores none ime ((setText none e "x").play (⟨s, []⟩ : Recorded Script)).2.runs := by
  intro ime e s
  have hs : Switched none ime ((setText none e "x").play (⟨s, []⟩ : Recorded Script)).2.runs := by
    decide +kernel
  have hw : Woken none ((setText none e "x").play (⟨s, []⟩ : Recorded Script)).2.runs := by
    decide +kernel
  exact ⟨hs, hw, (restores_iff_woken none e "x" s ime hs).mpr ⟨hw, by decide +kernel⟩⟩

/-- The keyboard of the bridge is switched to and can not be woken up. That is the end of it, and the
keyboard is not switched back to. -/
theorem keyboard_kept :
    let ime := "com.google.android.inputmethod.latin/.LatinIME"
    let e : Element := { (default : Element) with
      bounds := ⟨default, default, ⟨10, by decide, by decide⟩, ⟨10, by decide, by decide⟩⟩ }
    let s : Script := { replies := [{}, { output := Text.Utf8.encode ime.toList }, {},
      { status := 1 }] }
    Switched none ime ((setText none e "x").play (⟨s, []⟩ : Recorded Script)).2.runs ∧
    ¬ Restores none ime ((setText none e "x").play (⟨s, []⟩ : Recorded Script)).2.runs := by
  intro ime e s
  refine ⟨by decide +kernel, fun hr => ?_⟩
  exact absurd hr.exists_mem (by decide +kernel)

end BridgeSurface

end ScreenAgent
