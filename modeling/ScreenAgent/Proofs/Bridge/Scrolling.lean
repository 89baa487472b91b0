import ScreenAgent.Proofs.Bridge.Stroke
import ScreenAgent.Proofs.Bridge.Tapping

namespace ScreenAgent

namespace Bridge

variable {device : Option String} {start finish : Point}

def sizeCommand : List String := ["shell", "wm", "size"]

def swipeCommand (start finish : Point) (ms : Nat) : List String :=
  ["shell", "input", "swipe", coordinateText start.1, coordinateText start.2,
    coordinateText finish.1, coordinateText finish.2, String.ofList (Text.ofNat ms)]

theorem isArgument_of_mem_sizeCommand : ∀ s ∈ sizeCommand, IsArgument s := by decide

theorem isArgument_ofNat (n : Nat) : IsArgument (String.ofList (Text.ofNat n)) := by
  have hd : '\x00' ∉ Text.ofNat n := fun h => absurd (Text.isDigit_of_mem_ofNat h) (by decide)
  rwa [IsArgument, String.toList_ofList]

theorem isArgument_of_mem_swipeCommand {ms : Nat} :
    ∀ s ∈ swipeCommand start finish ms, IsArgument s := by
  have hwords : ∀ s ∈ ["shell", "input", "swipe"], IsArgument s := by decide
  have hcoordinate := isArgument_coordinateText
  have hnumber := isArgument_ofNat ms
  simp_all [swipeCommand]

theorem keeps_swipe {ms : Nat} (h : swipeDuration? start finish = some ms) :
    Keeps device [swipeCommand start finish ms] (swipe device start finish none) () := by
  have hs : swipe device start finish none =
      command device (swipeCommand start finish ms) >>= fun _ => pure () := by
    simp only [swipe, h]
    rfl
  rw [hs]
  exact keeps_command _

theorem outcome_swipe_of_none (h : swipeDuration? start finish = none) :
    (swipe device start finish none).outcome = pure (.error .overflow) := by
  simp only [swipe, h]
  rfl

theorem lt_of_natural? {bound n : Nat} {s : List Char} (h : Text.natural? bound s = some n) :
    n < bound := by
  obtain ⟨-, hn⟩ := Option.filter_eq_some_iff.mp h
  exact of_decide_eq_true hn

theorem lt_of_parseSize? {output : List Char} {size : Nat × Nat}
    (h : parseSize? output = some size) : size.1 < 4294967296 ∧ size.2 < 4294967296 := by
  simp only [parseSize?, Option.bind_eq_bind, Option.bind_eq_some_iff] at h
  obtain ⟨_, -, _, -, w, hw, v, hv, hs⟩ := h
  obtain rfl := Option.some.inj hs
  exact ⟨lt_of_natural? hw, lt_of_natural? hv⟩

end Bridge

namespace BridgeSurface

open Bridge

variable {δ : Type} [Host δ]

/-- How a surface comes to know the size of its screen from an output: it was told before, or it asks
now. -/
inductive Learns (s : BridgeSurface) (h : δ) (output : List Char) (size : Nat × Nat) :
    List Attempt → Prop
  | before (hs : s.screen = some size) : Learns s h output size []
  | now {r : Reply} (hs : s.screen = none)
      (ha : (Host.respond h (addressed s.device sizeCommand)).1 = .ok r) (hr : r.status = 0)
      (ho : Text.Utf8.decodeLossy r.output = output) :
      Learns s h output size [⟨addressed s.device sizeCommand, .ok r⟩]

/-- A run in which one swipe was made after the size was known. The answer tells what came of it. -/
def Swipes (device : Option String) (asked : List Attempt)
    (run : (Answer Unit × BridgeSurface) × Recorded δ) (start finish : Bridge.Point) (ms : Nat) : Prop :=
  ∃ answer : Except LaunchError Reply,
    let swipe : Attempt := ⟨addressed device (swipeCommand start finish ms), answer⟩
    run.2.runs = asked ++ [swipe] ∧ (swipe.succeeded = true → run.1.1 = .ok ()) ∧
      (swipe.succeeded = false → ∃ reason, run.1.1 = .fault (.rejected reason))

omit [Host δ] in
theorem Swipes.ne_overflow {device : Option String} {asked : List Attempt}
    {run : (Answer Unit × BridgeSurface) × Recorded δ} {start finish : Bridge.Point} {ms : Nat}
    (hs : Swipes device asked run start finish ms) : run.1.1 ≠ .overflow := by
  obtain ⟨answer, -, hok, hfault⟩ := hs
  intro ho
  cases hsucceeded : Attempt.succeeded ⟨addressed device (swipeCommand start finish ms), answer⟩ with
  | true => exact absurd (ho.symm.trans (hok hsucceeded)) nofun
  | false =>
    obtain ⟨reason, hreason⟩ := hfault hsucceeded
    exact absurd (ho.symm.trans hreason) nofun

def strike (s : BridgeSurface) : Option (Bridge.Point × Bridge.Point) →
    Dialog (Answer Unit × BridgeSurface)
  | none => pure (.overflow, s)
  | some (start, finish) =>
    (swipe s.device start finish none).outcome >>= fun r => pure (answerOf .rejected r, s)

theorem scroll_eq (s : BridgeSurface) (d : Direction) :
    s.scroll d = s.size.outcome >>= fun r =>
      match r with
      | .error mishap => pure (answerOf .rejected (.error mishap), s)
      | .ok (known, s) => strike s (strokes? d known) := by
  -- what the strokes are does not matter
  obtain ⟨strokes, hs⟩ : ∃ strokes, strokes? d = strokes := ⟨_, rfl⟩
  rw [scroll, hs]
  refine congrArg (s.size.outcome >>= ·) (funext fun r => ?_)
  cases r with
  | error mishap => rfl
  | ok known =>
    obtain ⟨known, s⟩ := known
    dsimp only
    cases strokes known <;> rfl

section

variable {s : BridgeSurface} {h : δ} {output : List Char} {size : Nat × Nat} {asked : List Attempt}
  (hdevice : ∀ id ∈ s.device, IsArgument id) (hsize : parseSize? output = some size)
  (hl : Learns s h output size asked)

include hdevice hsize hl

theorem play_size :
    ∃ h', s.size.outcome.play (⟨h, []⟩ : Recorded δ) =
      (.ok (size, { s with screen := some size }), ⟨h', asked⟩) := by
  obtain ⟨device, screen⟩ := s
  cases hl with
  | before hs =>
    obtain rfl : screen = some size := hs
    exact ⟨h, rfl⟩
  | @now r hs ha hr ho =>
    obtain rfl : screen = none := hs
    have hsent : (addressed device sizeCommand).any (fun a => a.toList.contains '\x00') = false := by
      have hlaunched : Attempt.isLaunched ⟨addressed device sizeCommand, .ok r⟩ = true :=
        isLaunched_addressed.mpr ⟨hdevice, isArgument_of_mem_sizeCommand⟩
      simpa [Attempt.isLaunched] using hlaunched
    have hasked : (Dialog.launch (addressed device sizeCommand)).play (⟨h, []⟩ : Recorded δ) =
        (.ok r, ⟨(Host.respond h (addressed device sizeCommand)).2,
          [⟨addressed device sizeCommand, .ok r⟩]⟩) := by
      rw [Dialog.play_launch, hsent, ← ha]
      rfl
    have hverdict : verdict sizeCommand (.ok r) = .ok output := by
      rw [verdict, if_pos hr, ho]
    have hread : (screenSize device).outcome.play (⟨h, []⟩ : Recorded δ) =
        (.ok size, ⟨(Host.respond h (addressed device sizeCommand)).2,
          [⟨addressed device sizeCommand, .ok r⟩]⟩) := by
      rw [screenSize, ← sizeCommand, play_command_bind, hasked]
      simp only [hverdict, hsize]
      rfl
    refine ⟨(Host.respond h (addressed device sizeCommand)).2, ?_⟩
    have hsize : (BridgeSurface.size ⟨device, none⟩).outcome =
        (screenSize device).outcome >>= ExceptT.bindCont fun asked =>
          pure (asked, (⟨device, some asked⟩ : BridgeSurface)) := rfl
    rw [hsize, Dialog.play_bind, hread]
    rfl

theorem play_scroll :
    ∃ h', ∀ d, (s.scroll d).play (⟨h, []⟩ : Recorded δ) =
      (strike { s with screen := some size } (strokes? d size)).play (⟨h', asked⟩ : Recorded δ) := by
  obtain ⟨h', hp⟩ := play_size hdevice hsize hl
  refine ⟨h', fun d => ?_⟩
  rw [scroll_eq, Dialog.play_bind, hp]

/-- A stroke that can be made is one swipe. -/
theorem swipes_of_stroke {d : Direction} {start finish : Bridge.Point} {ms : Nat}
    (hs : strokes? d size = some (start, finish)) (hms : swipeDuration? start finish = some ms) :
    Swipes s.device asked ((s.scroll d).play (⟨h, []⟩ : Recorded δ)) start finish ms := by
  obtain ⟨h', hp⟩ := play_scroll hdevice hsize hl
  obtain ⟨runs, hplay, hruns⟩ :=
    Dialog.play_recorded (swipe s.device start finish none).outcome h' asked
  generalize (swipe s.device start finish none).outcome.play h' = swiped at hplay hruns
  obtain ⟨attempts, stop, hlaunched, hfollows, hstop⟩ := keeps_swipe hms _ _ hruns
  obtain ⟨answer, rfl⟩ := hfollows.singleton
  have hrun : runs = [⟨addressed s.device (swipeCommand start finish ms), answer⟩] := by
    refine hlaunched.eq_of_forall fun a ha => ?_
    obtain rfl := List.mem_singleton.mp ha
    exact isLaunched_addressed.mpr ⟨hdevice, isArgument_of_mem_swipeCommand⟩
  have hplayed : (s.scroll d).play (⟨h, []⟩ : Recorded δ) =
      ((reported stop, { s with screen := some size }),
        ⟨swiped.2, asked ++ [⟨addressed s.device (swipeCommand start finish ms), answer⟩]⟩) := by
    rw [hp, hs, strike, Dialog.play_bind, hplay, hstop, answerOf_ending, hrun]
    rfl
  have hdone := List.forall_mem_singleton.symm.trans hfollows.completed_iff
  rw [hplayed]
  refine ⟨answer, rfl, fun hsucceeded => ?_, fun hfailed => reported_of_ne_ok fun hok => ?_⟩
  · exact reported_eq_ok_iff.mpr (hdone.mp hsucceeded)
  · rw [hdone.mpr (reported_eq_ok_iff.mp hok)] at hfailed
    cases hfailed

/-- Beyond the limit nothing is run but what the size was asked with. -/
theorem overflow_of_lt {d : Direction} (hlimit : d.limit < (signed (d.along size)).natAbs) :
    let run := (s.scroll d).play (⟨h, []⟩ : Recorded δ)
    run.1.1 = .overflow ∧ run.2.runs = asked := by
  obtain ⟨h', hp⟩ := play_scroll hdevice hsize hl
  intro run
  have hrun : run = _ := hp d
  rw [hrun]
  cases hs : strokes? d size with
  | none => exact ⟨rfl, rfl⟩
  | some stroke =>
    obtain ⟨start, finish⟩ := stroke
    rw [strike, outcome_swipe_of_none (swipeDuration?_of_lt hlimit hs)]
    exact ⟨rfl, rfl⟩

/-- A screen on which both extents are at least one is scrolled by one swipe, which lasts from 300 to
1000 milliseconds, is straight and goes back in the other direction; or the extent along the direction,
taken for a number of 32 bits with sign, is beyond the limit, and then there is no answer and nothing is
swiped. The swipe is on the screen exactly if no extent has a sign, the longest one apart, and then it
goes against the direction. -/
theorem scrolls_inside (hw : 1 ≤ size.1) (hh : 1 ≤ size.2) (d : Direction) :
    let run (d : Direction) := (s.scroll d).play (⟨h, []⟩ : Recorded δ)
    let extent := signed (d.along size)
    (s.scroll d).play h = ((run d).1, (run d).2.host) ∧
    ((run d).1.1 = .overflow ↔ d.limit < extent.natAbs) ∧
    (d.limit < extent.natAbs → (run d).2.runs = asked) ∧
    (extent.natAbs ≤ d.limit →
      ∃ (start finish : Bridge.Point) (ms : Nat),
        Swipes s.device asked (run d) start finish ms ∧
        Swipes s.device asked (run d.opposite) finish start ms ∧
        (300 ≤ ms ∧ ms ≤ 1000) ∧ d.across start = d.across finish ∧
        (OnScreen size start ∧ OnScreen size finish ↔ Placed size.1 ∧ Placed size.2) ∧
        (Placed (d.along size) → d.Against start finish)) := by
  intro run extent
  obtain ⟨runs, hplay, -⟩ := Dialog.exists_runs (s.scroll d) h
  have hrun : run d = _ := hplay
  obtain ⟨hw', hh'⟩ := lt_of_parseSize? hsize
  refine ⟨by rw [hrun], ⟨fun ho => ?_, fun hlimit => ?_⟩, fun hlimit => ?_, fun hlimit => ?_⟩
  · by_contra hlimit
    obtain ⟨start, finish, -, hs, -, hms, -⟩ := exists_stroke (Nat.le_of_not_lt hlimit)
    exact (swipes_of_stroke hdevice hsize hl hs hms).ne_overflow ho
  · exact (overflow_of_lt hdevice hsize hl hlimit).1
  · exact (overflow_of_lt hdevice hsize hl hlimit).2
  · obtain ⟨start, finish, hstroke, hs, ho, hms, hms'⟩ := exists_stroke hlimit
    have hbounds := duration_bounds (way d extent)
    exact ⟨start, finish, _, swipes_of_stroke hdevice hsize hl hs hms,
      swipes_of_stroke hdevice hsize hl ho hms', hbounds, hstroke.across_finish.symm,
      hstroke.onScreen_iff ⟨hw, hw'⟩ ⟨hh, hh'⟩, hstroke.against⟩

end

/-- A screen that is as wide as it may be is scrolled to the right, and one that is as high as it may be
is scrolled down. -/
theorem scrolls_inside_limit :
    let s : BridgeSurface := ⟨some "pixel", none⟩
    let output := "Physical size: 1080x2400\nOverride size: 77233x115851\n".toList
    let r : Reply := { output := Text.Utf8.encode output }
    let h : Script := { replies := [r] }
    let asked : List Attempt := [⟨addressed s.device sizeCommand, .ok r⟩]
    (∀ id ∈ s.device, IsArgument id) ∧ parseSize? output = some (77233, 115851) ∧
    s.Learns h output (77233, 115851) asked ∧
    ∀ d ∈ [Direction.right, .down], ∃ (start finish : Bridge.Point) (ms : Nat),
      Swipes s.device asked ((s.scroll d).play (⟨h, []⟩ : Recorded Script)) start finish ms ∧
      (300 ≤ ms ∧ ms ≤ 1000) ∧ OnScreen (77233, 115851) start ∧ OnScreen (77233, 115851) finish ∧
      d.Against start finish := by
  intro s output r h asked
  have hdevice : ∀ id ∈ s.device, IsArgument id := by decide
  have hsize : parseSize? output = some (77233, 115851) := by decide +kernel
  have hl : s.Learns h output (77233, 115851) asked :=
    .now rfl rfl rfl (by decide +kernel)
  have hd : ∀ d ∈ [Direction.right, .down], (signed (d.along (77233, 115851))).natAbs ≤ d.limit ∧
      Placed (d.along (77233, 115851)) := by decide
  refine ⟨hdevice, hsize, hl, fun d hm => ?_⟩
  obtain ⟨hlimit, hplaced⟩ := hd d hm
  obtain ⟨-, -, -, hswipe⟩ := scrolls_inside hdevice hsize hl (by decide) (by decide) d
  obtain ⟨start, finish, ms, hs, -, hms, -, hon, hagainst⟩ := hswipe hlimit
  obtain ⟨hstart, hfinish⟩ := hon.mpr (by decide)
  exact ⟨start, finish, ms, hs, hms, hstart, hfinish, hagainst hplaced⟩

/-- The way over this screen is one too long: there is no answer, and nothing is swiped. -/
theorem scroll_overflows :
    let s : BridgeSurface := ⟨none, none⟩
    let output := "Physical size: 100x115852\n".toList
    let h : Script := { replies := [{ output := Text.Utf8.encode output }] }
    let run := (s.scroll .down).play (⟨h, []⟩ : Recorded Script)
    parseSize? output = some (100, 115852) ∧ run.1.1 = .overflow ∧
      run.2.runs.map Attempt.arguments = [sizeCommand] := by
  intro s output h run
  have hdevice : ∀ id ∈ s.device, IsArgument id := by decide
  have hsize : parseSize? output = some (100, 115852) := by decide +kernel
  have hl : s.Learns h output (100, 115852) [⟨addressed s.device sizeCommand, .ok _⟩] :=
    .now rfl rfl rfl (by decide +kernel)
  obtain ⟨hanswer, hruns⟩ := overflow_of_lt (d := .down) hdevice hsize hl (by decide)
  exact ⟨hsize, hanswer, congrArg (List.map Attempt.arguments) hruns⟩

end BridgeSurface

end ScreenAgent
