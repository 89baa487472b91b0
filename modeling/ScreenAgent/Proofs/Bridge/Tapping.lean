import ScreenAgent.Bridge.Surface
import ScreenAgent.Proofs.Bridge.Sequence
import ScreenAgent.Proofs.Screen.Bounds
import ScreenAgent.Proofs.Text.Numeral

namespace ScreenAgent

namespace Bridge

variable {device : Option String}

def tapCommand (place : Point) : List String :=
  ["shell", "input", "tap", coordinateText place.1, coordinateText place.2]

theorem keeps_tap (place : Point) : Keeps device [tapCommand place] (tap device place) () :=
  keeps_command _

theorem isArgument_coordinateText (c : Coordinate) : IsArgument (coordinateText c) := by
  have hd : '\x00' ∉ Text.ofNat c.val.natAbs := fun h =>
    absurd (Text.isDigit_of_mem_ofNat h) (by decide)
  rw [IsArgument, coordinateText, String.toList_ofList, Text.ofInt]
  split <;> simp [hd]

theorem isArgument_of_mem_tapCommand {place : Point} : ∀ s ∈ tapCommand place, IsArgument s := by
  have hwords : ∀ s ∈ ["shell", "input", "tap"], IsArgument s := by decide
  have hx := isArgument_coordinateText place.1
  have hy := isArgument_coordinateText place.2
  simp_all [tapCommand]

/-- What a surface says to commands that may have stopped. -/
def reported : Option BridgeError → Answer Unit
  | none => .ok ()
  | some e => .fault (.rejected e.message)

theorem answerOf_ending (stop : Option BridgeError) :
    BridgeSurface.answerOf .rejected (ending () stop) = reported stop := by
  cases stop <;> rfl

theorem reported_eq_ok_iff {stop : Option BridgeError} : reported stop = .ok () ↔ stop = none := by
  cases stop <;> simp [reported]

theorem reported_of_ne_ok {stop : Option BridgeError} (h : reported stop ≠ .ok ()) :
    ∃ reason, reported stop = .fault (.rejected reason) := by
  cases stop with
  | none => exact absurd rfl h
  | some e => exact ⟨_, rfl⟩

theorem reported_ne_overflow (stop : Option BridgeError) : reported stop ≠ .overflow := by
  cases stop <;> simp [reported]

end Bridge

namespace BridgeSurface

open Bridge

variable {device : Option String} {e : Element} {δ : Type} [Host δ]

theorem tapElement_of_not_measurable (hm : ¬ e.bounds.Measurable) :
    tapElement device e = pure .overflow := by
  rw [tapElement, Bounds.isEmpty?_eq_none_iff.mpr hm]

theorem tapElement_of_not_hasArea (hm : e.bounds.Measurable) (ha : ¬ e.bounds.HasArea) :
    tapElement device e =
      pure (.fault (.rejected (e.elementClass ++ " has no on-screen area"))) := by
  rw [tapElement, Bounds.isEmpty?_of_measurable hm, decide_eq_false ha]
  rfl

theorem tapElement_of_hasArea (hm : e.bounds.Measurable) (ha : e.bounds.HasArea) {place : Bridge.Point}
    (hp : e.bounds.center? = some place) :
    tapElement device e =
      (tap device place).outcome >>= fun r => pure (answerOf .rejected r) := by
  rw [tapElement, Bounds.isEmpty?_of_measurable hm, decide_eq_true ha]
  simp only [Bool.not_true, hp]

theorem runs_tapElement {runs : List Attempt} {answer : Answer Unit} (hm : e.bounds.Measurable)
    (ha : e.bounds.HasArea) {place : Bridge.Point} (hp : e.bounds.center? = some place)
    (h : (tapElement device e).Runs runs answer) :
    ∃ attempts stop, Launched attempts runs ∧ Follows device [tapCommand place] attempts stop ∧
      answer = reported stop := by
  rw [tapElement_of_hasArea hm ha hp] at h
  obtain ⟨before, r, after, rfl, htap, hend⟩ := Dialog.runs_bind h
  obtain ⟨rfl, rfl⟩ := Dialog.runs_pure_iff.mp hend
  obtain ⟨attempts, stop, hl, hf, rfl⟩ := keeps_tap place _ _ htap
  rw [List.append_nil]
  exact ⟨attempts, stop, hl, hf, answerOf_ending stop⟩

/-- An element is tapped just once and inside its bounds, or refused where they have no area; nothing
else is run. There is no answer exactly if its bounds can not be measured, and nothing is run then. -/
theorem taps_inside (device : Option String) (e : Element) (h : δ) :
    let b := e.bounds
    let run := (tapElement device e).play (⟨h, []⟩ : Recorded δ)
    (tapElement device e).play h = (run.1, run.2.host) ∧
    (run.1 = .overflow ↔ ¬ b.Measurable) ∧
    (¬ b.Measurable → run.2.runs = []) ∧
    (b.Measurable → b.right.val ≤ b.left.val ∨ b.bottom.val ≤ b.top.val →
      run.1 = .fault (.rejected (e.elementClass ++ " has no on-screen area")) ∧ run.2.runs = []) ∧
    (b.Measurable → b.left.val < b.right.val → b.top.val < b.bottom.val →
      ∃ (x y : Coordinate) (answer : Except LaunchError Reply),
        (b.left.val ≤ x.val ∧ x.val < b.right.val ∧ b.top.val ≤ y.val ∧ y.val < b.bottom.val) ∧
        let tap : Attempt := ⟨addressed device ["shell", "input", "tap", coordinateText x,
          coordinateText y], answer⟩
        Launched [tap] run.2.runs ∧ ((∀ id ∈ device, IsArgument id) → run.2.runs = [tap]) ∧
        (run.1 = .ok () ↔ tap.succeeded = true)) := by
  intro b run
  obtain ⟨runs, hplay, hruns⟩ := Dialog.exists_runs (tapElement device e) h
  have hrun : run = _ := hplay
  rw [hrun]
  refine ⟨rfl, ?_, fun hm => ?_, fun hm ha => ?_, fun hm hl ht => ?_⟩
  · by_cases hm : b.Measurable
    · refine iff_of_false (fun ho => ?_) (not_not_intro hm)
      by_cases ha : b.HasArea
      · obtain ⟨x, y, hp, -⟩ := Bounds.center?_inside hm ha
        obtain ⟨attempts, stop, -, -, hs⟩ := runs_tapElement hm ha hp hruns
        exact reported_ne_overflow stop (hs.symm.trans ho)
      · rw [tapElement_of_not_hasArea hm ha] at ho
        cases ho
    · rw [tapElement_of_not_measurable hm]
      exact iff_of_true rfl hm
  · rw [tapElement_of_not_measurable hm] at hruns
    exact (Dialog.runs_pure_iff.mp hruns).1
  · have hn : ¬ b.HasArea := fun hb => by
      obtain ⟨hl, ht⟩ := hb
      omega
    rw [tapElement_of_not_hasArea hm hn] at hruns ⊢
    exact ⟨rfl, (Dialog.runs_pure_iff.mp hruns).1⟩
  · obtain ⟨x, y, hp, hinside⟩ := Bounds.center?_inside hm ⟨hl, ht⟩
    obtain ⟨attempts, stop, hlaunched, hfollows, hanswer⟩ := runs_tapElement hm ⟨hl, ht⟩ hp hruns
    obtain ⟨answer, rfl⟩ := hfollows.singleton
    refine ⟨x, y, answer, hinside, hlaunched, fun hid => ?_, ?_⟩
    · refine hlaunched.eq_of_forall fun a ha => ?_
      obtain rfl := List.mem_singleton.mp ha
      exact isLaunched_addressed.mpr ⟨hid, isArgument_of_mem_tapCommand⟩
    · rw [hanswer, reported_eq_ok_iff, ← hfollows.completed_iff]
      exact List.forall_mem_singleton

/-- An element as wide as can be measured from its left edge on is tapped in its middle. -/
theorem taps_inside_wide :
    let e : Element := { (default : Element) with
      bounds := ⟨⟨0, by decide, by decide⟩, ⟨-2147483648, by decide, by decide⟩,
        ⟨2147483647, by decide, by decide⟩, ⟨-1, by decide, by decide⟩⟩ }
    e.bounds.Measurable ∧ ∃ (x y : Coordinate) (answer : Except LaunchError Reply),
      (e.bounds.left.val ≤ x.val ∧ x.val < e.bounds.right.val ∧ e.bounds.top.val ≤ y.val ∧
        y.val < e.bounds.bottom.val) ∧
      ((tapElement (some "pixel") e).play (⟨{ replies := [] }, []⟩ : Recorded Script)).2.runs =
        [⟨addressed (some "pixel") ["shell", "input", "tap", coordinateText x, coordinateText y],
          answer⟩] := by
  intro e
  have hm : e.bounds.Measurable := by decide
  obtain ⟨-, -, -, -, htap⟩ := taps_inside (some "pixel") e ({ replies := [] } : Script)
  obtain ⟨x, y, answer, hinside, -, hruns, -⟩ := htap hm (by decide) (by decide)
  exact ⟨hm, x, y, answer, hinside, hruns (by decide)⟩

/-- Edges may be turned around and be so far apart that the width is no coordinate. There is no area
then, and the element is to be refused; or there is one, and it is to be tapped. But there is no answer
in either case, and nothing is run. -/
theorem tap_overflows :
    let first : Coordinate := ⟨-2147483648, by decide, by decide⟩
    let last : Coordinate := ⟨2147483647, by decide, by decide⟩
    let e (left right : Coordinate) : Element := { (default : Element) with
      bounds := ⟨left, default, right, ⟨10, by decide, by decide⟩⟩ }
    let run (left right : Coordinate) :=
      (tapElement none (e left right)).play (⟨{ replies := [] }, []⟩ : Recorded Script)
    ((e last first).bounds.right.val ≤ (e last first).bounds.left.val ∧
      (run last first).1 = .overflow ∧ ∀ reason, (run last first).1 ≠ .fault (.rejected reason)) ∧
    ((e first last).bounds.HasArea ∧
      (run first last).1 = .overflow ∧ (run first last).2.runs = []) := by
  intro first last e run
  have hover (left right : Coordinate) (hm : ¬ (e left right).bounds.Measurable) :
      run left right = (.overflow, ⟨{ replies := [] }, []⟩) := by
    simp only [run, tapElement_of_not_measurable hm]
    rfl
  have hturned := hover last first (by decide)
  have hwide := hover first last (by decide)
  refine ⟨⟨by decide, by rw [hturned], fun reason => ?_⟩, by decide, by rw [hwide], by rw [hwide]⟩
  rw [hturned]
  nofun

end BridgeSurface

end ScreenAgent
