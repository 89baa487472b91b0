import ScreenAgent.Bridge.Screen
import ScreenAgent.Proofs.Bridge.Sequence
import ScreenAgent.Proofs.Text.Search

namespace ScreenAgent

namespace Bridge

variable {device : Option String}

def removeCommand : List String := ["shell", "rm", "-f", dumpPath]

def dumpCommand : List String := ["shell", "uiautomator", "dump", dumpPath]

def readCommand : List String := ["shell", "cat", dumpPath]

theorem isArgument_of_mem : ∀ c ∈ [removeCommand, dumpCommand, readCommand], ∀ s ∈ c,
    IsArgument s := by
  decide

/-- Whether a status tells that no window is active. -/
def Inactive (status : List Char) : Prop := "null root node".toList <:+: status

/-- Whether a status tells that a dump was made. -/
def Confirmed (status : List Char) : Prop :=
  "dumped to".toList <:+: status ∧ ¬ Inactive status

def readTree (text : List Char) : Except Mishap (Option Node) :=
  match Hierarchy.read text with
  | .ok tree => .ok (some tree)
  | .error e => .error (.failed (.malformedHierarchy e))

theorem readTree_eq_some_iff {text : List Char} {tree : Node} :
    readTree text = .ok (some tree) ↔ Hierarchy.read text = .ok tree := by
  rw [readTree]
  cases Hierarchy.read text <;> simp

/-- How a dump is made: the attempts, and what comes of it. -/
inductive Dumps (device : Option String) : List Attempt → Except Mishap (Option Node) → Prop
  | failed {attempts : List Attempt} {e : BridgeError}
      (h : Follows device [removeCommand, dumpCommand] attempts (some e)) :
      Dumps device attempts (.error (.failed e))
  | inactive {removal status : Attempt}
      (h : Follows device [removeCommand, dumpCommand] [removal, status] none)
      (hi : Inactive status.output) : Dumps device [removal, status] (.ok none)
  | unconfirmed {removal status : Attempt}
      (h : Follows device [removeCommand, dumpCommand] [removal, status] none)
      (hi : ¬ Inactive status.output) (hc : ¬ Confirmed status.output) :
      Dumps device [removal, status]
        (.error (.failed (.unexpectedOutput (String.ofList (Text.trim status.output)))))
  | unread {removal status file : Attempt} {e : BridgeError}
      (h : Follows device [removeCommand, dumpCommand, readCommand] [removal, status, file] (some e))
      (hc : Confirmed status.output) :
      Dumps device [removal, status, file] (.error (.failed e))
  | read {removal status file : Attempt}
      (h : Follows device [removeCommand, dumpCommand, readCommand] [removal, status, file] none)
      (hc : Confirmed status.output) :
      Dumps device [removal, status, file] (readTree file.output)

def afterStatus (device : Option String) (status : List Char) : Bridge (Option Node) :=
  if Text.holds "null root node".toList status then pure none
  else if Text.holds "dumped to".toList status then
    command device readCommand >>= fun text => ExceptT.mk (pure (readTree text))
  else fail (.unexpectedOutput (String.ofList (Text.trim status)))

theorem dump_eq : dump device = command device removeCommand >>= fun _ =>
    command device dumpCommand >>= afterStatus device := by
  refine congrArg (command device removeCommand >>= ·) (funext fun _ => ?_)
  refine congrArg (command device dumpCommand >>= ·) (funext fun status => ?_)
  rw [afterStatus]
  cases Text.holds "dumped to".toList status with
  | false => rfl
  | true =>
    refine congrArg (ite _ _) (congrArg (command device readCommand >>= ·) (funext fun text => ?_))
    rw [readTree]
    cases Hierarchy.read text <;> rfl

theorem runs_afterStatus {removal status : Attempt} {runs : List Attempt}
    {r : Except Mishap (Option Node)}
    (hf : Follows device [removeCommand, dumpCommand] [removal, status] none)
    (h : (afterStatus device status.output).outcome.Runs runs r) :
    ∃ reading, Launched reading runs ∧ Dumps device ([removal, status] ++ reading) r := by
  rw [afterStatus] at h
  split at h
  · rename_i hi
    obtain ⟨rfl, rfl⟩ := runs_pure h
    exact ⟨[], .nil, .inactive hf (Text.holds_iff.mp hi)⟩
  rename_i hi
  have hi : ¬ Inactive status.output := mt Text.holds_iff.mpr hi
  split at h
  · rename_i hd
    have hc : Confirmed status.output := ⟨Text.holds_iff.mp hd, hi⟩
    obtain ⟨m, hr, rfl⟩ | ⟨before, text, after, rfl, hr, h⟩ := runs_bind h
    · obtain ⟨answer, e, hl, hv, rfl⟩ := runs_command_error hr
      exact ⟨_, hl, .unread (hf.append (.failed hv)) hc⟩
    · obtain ⟨answer, hl, hv⟩ := runs_command_ok hr
      obtain ⟨rfl, rfl⟩ := Dialog.runs_pure_iff.mp h
      rw [(succeeded_of_verdict (addressed device readCommand) hv).2, List.append_nil]
      exact ⟨_, hl, .read (hf.append (.went hv .done)) hc⟩
  · rename_i hd
    obtain ⟨rfl, rfl⟩ := Dialog.runs_pure_iff.mp h
    exact ⟨[], .nil, .unconfirmed hf hi fun hc => hd (Text.holds_iff.mpr hc.1)⟩

theorem runs_dump {runs : List Attempt} {r : Except Mishap (Option Node)}
    (h : (dump device).outcome.Runs runs r) :
    ∃ attempts, Launched attempts runs ∧ Dumps device attempts r := by
  rw [dump_eq] at h
  obtain ⟨m, hr, rfl⟩ | ⟨first, out, rest, rfl, hr, h⟩ := runs_bind h
  · obtain ⟨removal, e, hl, hv, rfl⟩ := runs_command_error hr
    exact ⟨_, hl, .failed (.failed hv)⟩
  obtain ⟨removal, hl, hv⟩ := runs_command_ok hr
  obtain ⟨m, hr, rfl⟩ | ⟨second, told, rest, rfl, hr, h⟩ := runs_bind h
  · obtain ⟨status, e, hl', hv', rfl⟩ := runs_command_error hr
    exact ⟨_, hl.append hl', .failed (.went hv (.failed hv'))⟩
  obtain ⟨status, hl', hv'⟩ := runs_command_ok hr
  rw [(succeeded_of_verdict (addressed device dumpCommand) hv').2] at h
  obtain ⟨reading, hl'', hd⟩ := runs_afterStatus (.went hv (.went hv' .done)) h
  exact ⟨_, hl.append (hl'.append hl''), hd⟩

namespace Dumps

variable {attempts : List Attempt} {r : Except Mishap (Option Node)}

theorem map_arguments_prefix (h : Dumps device attempts r) : attempts.map Attempt.arguments <+:
    [removeCommand, dumpCommand, readCommand].map (addressed device) := by
  have opening {as : List Attempt} {stop : Option BridgeError}
      (hf : Follows device [removeCommand, dumpCommand] as stop) :
      as.map Attempt.arguments <+:
        [removeCommand, dumpCommand, readCommand].map (addressed device) :=
    hf.map_arguments_prefix.trans ⟨[addressed device readCommand], rfl⟩
  cases h with
  | failed h => exact opening h
  | inactive h => exact opening h
  | unconfirmed h => exact opening h
  | unread h => exact h.map_arguments_prefix
  | read h => exact h.map_arguments_prefix

theorem eq_some_iff (h : Dumps device attempts r) {tree : Node} :
    r = .ok (some tree) ↔ ∃ removal status file, attempts = [removal, status, file] ∧
      Completed attempts ∧ Confirmed status.output ∧ Hierarchy.read file.output = .ok tree := by
  cases h with
  | failed h =>
    refine iff_of_false nofun ?_
    rintro ⟨removal, status, file, -, hc, -⟩
    cases h.completed_iff.mp hc
  | inactive h hi => exact iff_of_false nofun (by simp)
  | unconfirmed h hi hc => exact iff_of_false nofun (by simp)
  | unread h hc =>
    refine iff_of_false nofun ?_
    rintro ⟨removal, status, file, -, hc, -⟩
    cases h.completed_iff.mp hc
  | @read removal status file h hc =>
    rw [readTree_eq_some_iff]
    constructor
    · exact fun hr => ⟨removal, status, file, rfl, h.completed_iff.mpr rfl, hc, hr⟩
    · rintro ⟨_, _, _, ha, -, -, hr⟩
      cases ha
      exact hr

theorem eq_none_iff (h : Dumps device attempts r) :
    r = .ok none ↔ ∃ removal status rest, attempts = removal :: status :: rest ∧
      removal.succeeded = true ∧ status.succeeded = true ∧ Inactive status.output := by
  cases h with
  | failed h =>
    refine iff_of_false nofun ?_
    rintro ⟨removal, status, rest, rfl, -, hs, -⟩
    cases h with
    | went hv hr =>
      cases hr with
      | failed hv' =>
        rw [not_succeeded_of_verdict hv'] at hs
        cases hs
      | went hv' hr' => cases hr'
  | @inactive removal status h hi =>
    have hc := h.completed_iff.mpr rfl
    exact iff_of_true rfl ⟨removal, status, [], rfl, hc _ (by simp), hc _ (by simp), hi⟩
  | unconfirmed h hi hc =>
    refine iff_of_false nofun ?_
    rintro ⟨_, _, _, ha, -, -, hi'⟩
    cases ha
    exact hi hi'
  | unread h hc =>
    refine iff_of_false nofun ?_
    rintro ⟨_, _, _, ha, -, -, hi⟩
    cases ha
    exact hc.2 hi
  | @read removal status file h hc =>
    refine iff_of_false ?_ ?_
    · rw [readTree]
      cases Hierarchy.read file.output <;> nofun
    · rintro ⟨_, _, _, ha, -, -, hi⟩
      cases ha
      exact hc.2 hi

theorem eq_error (h : Dumps device attempts r) (hn : r ≠ .ok none)
    (ht : ∀ tree, r ≠ .ok (some tree)) : ∃ e, r = .error (.failed e) := by
  cases h with
  | failed h => exact ⟨_, rfl⟩
  | inactive h hi => exact absurd rfl hn
  | unconfirmed h hi hc => exact ⟨_, rfl⟩
  | unread h hc => exact ⟨_, rfl⟩
  | @read removal status file h hc =>
    rw [readTree] at ht ⊢
    cases hr : Hierarchy.read file.output with
    | error e => exact ⟨_, rfl⟩
    | ok tree =>
      rw [hr] at ht
      exact absurd rfl (ht tree)

end Dumps

/-- A device: the file that dumps are written to, if it is there, and whatever else there is. -/
@[ext] structure Handset (ω : Type) where
  rest : ω
  file : Option (List UInt8)

variable {ω : Type} [Host (Handset ω)]

def Handset.removal (device : Option String) (s : Handset ω) : Attempt :=
  ⟨addressed device removeCommand, ((Dialog.launch (addressed device removeCommand)).play s).1⟩

def Handset.afterRemoval (device : Option String) (s : Handset ω) : Handset ω :=
  ((Dialog.launch (addressed device removeCommand)).play s).2

/-- On a device, a removal that succeeds leaves no file, and whether it does so does not depend on what
the file was. -/
structure Removes (device : Option String) (w : ω) : Prop where
  file_eq_none : ∀ old, ((⟨w, old⟩ : Handset ω).removal device).succeeded = true →
    ((⟨w, old⟩ : Handset ω).afterRemoval device).file = none
  succeeded_eq : ∀ old old', ((⟨w, old⟩ : Handset ω).removal device).succeeded =
    ((⟨w, old'⟩ : Handset ω).removal device).succeeded

/-- A removal that succeeds leaves nothing of the file elsewhere on the device. -/
def Forgets (device : Option String) (w : ω) : Prop :=
  ∀ old old', ((⟨w, old⟩ : Handset ω).removal device).succeeded = true →
    ((⟨w, old⟩ : Handset ω).afterRemoval device).rest =
      ((⟨w, old'⟩ : Handset ω).afterRemoval device).rest

section

variable {w : ω} {old old' : Option (List UInt8)}

theorem Removes.afterRemoval_eq (h : Removes device w) (hf : Forgets device w)
    (hs : ((⟨w, old⟩ : Handset ω).removal device).succeeded = true) :
    (⟨w, old⟩ : Handset ω).afterRemoval device = (⟨w, old'⟩ : Handset ω).afterRemoval device := by
  have hnone := h.file_eq_none old hs
  have hnone' := h.file_eq_none old' ((h.succeeded_eq old' old).trans hs)
  exact Handset.ext (hf old old' hs) (hnone.trans hnone'.symm)

def Handset.dumped (device : Option String) (s : Handset ω) : Except Mishap (Option Node) :=
  ((dump device).outcome.play s).1

/-- The removal alone sees the old file. -/
theorem Handset.dumped_eq (s : Handset ω) : s.dumped device =
    match verdict removeCommand (s.removal device).answer with
    | .error e => .error (.failed e)
    | .ok _ => ((command device dumpCommand >>= afterStatus device).outcome.play
        (s.afterRemoval device)).1 := by
  rw [Handset.dumped, dump_eq, play_command_bind, Handset.removal, Handset.afterRemoval]
  cases verdict removeCommand ((Dialog.launch (addressed device removeCommand)).play s).1 with
  | error e => rfl
  | ok out => rfl

theorem Handset.dumped_of_not_succeeded {s : Handset ω}
    (hs : (s.removal device).succeeded = false) : ∃ reason,
      verdict removeCommand (s.removal device).answer = .error (.commandFailed reason) ∧
      s.dumped device = .error (.failed (.commandFailed reason)) := by
  obtain ⟨reason, hr⟩ := verdict_of_not_succeeded hs removeCommand
  exact ⟨reason, hr, by rw [s.dumped_eq, hr]⟩

theorem Removes.dumped_eq (h : Removes device w) (hf : Forgets device w)
    (hs : ((⟨w, old⟩ : Handset ω).removal device).succeeded = true) :
    (⟨w, old⟩ : Handset ω).dumped device = (⟨w, old'⟩ : Handset ω).dumped device := by
  obtain ⟨out, ho⟩ := verdict_of_succeeded hs removeCommand
  obtain ⟨out', ho'⟩ := verdict_of_succeeded ((h.succeeded_eq old' old).trans hs) removeCommand
  have hafter : (⟨w, old⟩ : Handset ω).afterRemoval device =
      (⟨w, old'⟩ : Handset ω).afterRemoval device := h.afterRemoval_eq hf hs
  rw [Handset.dumped_eq, Handset.dumped_eq, ho, ho', hafter]

theorem Removes.dumped_agree (h : Removes device w) (hf : Forgets device w) :
    let s : Handset ω := ⟨w, old⟩
    let s' : Handset ω := ⟨w, old'⟩
    (∀ found, s.dumped device = .ok found ↔ s'.dumped device = .ok found) ∧
    ((s.removal device).succeeded = true → s.dumped device = s'.dumped device) ∧
    ((s.removal device).succeeded = false → ∃ reason reason',
      verdict removeCommand (s.removal device).answer = .error (.commandFailed reason) ∧
      verdict removeCommand (s'.removal device).answer = .error (.commandFailed reason') ∧
      s.dumped device = .error (.failed (.commandFailed reason)) ∧
      s'.dumped device = .error (.failed (.commandFailed reason'))) := by
  intro s s'
  cases hs : (s.removal device).succeeded with
  | true =>
    have hsame : s.dumped device = s'.dumped device := h.dumped_eq hf hs
    exact ⟨fun found => by rw [hsame], fun _ => hsame, nofun⟩
  | false =>
    have hs' : (s'.removal device).succeeded = false := (h.succeeded_eq old' old).trans hs
    obtain ⟨reason, hv, hr⟩ := Handset.dumped_of_not_succeeded hs
    obtain ⟨reason', hv', hr'⟩ := Handset.dumped_of_not_succeeded hs'
    refine ⟨fun found => ?_, nofun, fun _ => ⟨reason, reason', hv, hv', hr, hr'⟩⟩
    rw [hr, hr']
    exact iff_of_false nofun nofun

end

/-- A device with a screen. A dump of it may be told of and not written, a removal may be refused with the
content of the file for a reason, and what is removed may be kept and written again. -/
structure Screen where
  text : List UInt8
  writes : Bool := true
  refuses : Bool := false
  keeps : Bool := false

instance : Host (Handset Screen) where
  respond s arguments :=
    if arguments = removeCommand then
      if s.rest.refuses then (.ok { status := 1, errors := s.file.getD [] }, s)
      else
        let kept := s.file.filter fun _ => s.rest.keeps
        (.ok {}, ⟨{ s.rest with text := kept.getD s.rest.text }, none⟩)
    else if arguments = dumpCommand then
      (.ok { output := Text.Utf8.encode ("UI hierchary dumped to: " ++ dumpPath).toList },
        if s.rest.writes then { s with file := some s.rest.text } else s)
    else
      match s.file with
      | some text => (.ok { output := text }, s)
      | none => (.ok { status := 1 }, s)

theorem play_removal (s : Handset Screen) : (Dialog.launch (addressed none removeCommand)).play s =
    if s.rest.refuses then (.ok { status := 1, errors := s.file.getD [] }, s)
    else (.ok {}, ⟨{ s.rest with text := (s.file.filter fun _ => s.rest.keeps).getD s.rest.text },
      none⟩) := by
  rw [Dialog.play_launch, if_neg (by decide)]
  exact if_pos rfl

theorem removes_screen (w : Screen) : Removes none w := by
  cases hw : w.refuses with
  | true =>
    refine ⟨fun old hs => ?_, fun old old' => ?_⟩
    · simp [Handset.removal, play_removal, hw, Attempt.succeeded] at hs
    · simp [Handset.removal, play_removal, hw, Attempt.succeeded]
  | false =>
    refine ⟨fun old hs => ?_, fun old old' => ?_⟩
    · simp [Handset.afterRemoval, play_removal, hw]
    · simp [Handset.removal, play_removal, hw]

/-- How a dump is made and what comes of it. If a removal that succeeds leaves nothing of the file, then
whatever file there was, the same comes of it, but that the error of a removal that fails is the one that
the removal itself told; so a tree or none is never read from an old file. -/
theorem dumps_afresh (device : Option String) (w : ω) (old : Option (List UInt8)) :
    let s : Handset ω := ⟨w, old⟩
    let run := (dump device).outcome.play (⟨s, []⟩ : Recorded (Handset ω))
    (dump device).outcome.play s = (run.1, run.2.host) ∧
    (∃ attempts, Dumps device attempts run.1 ∧ Launched attempts run.2.runs ∧
      ((∀ id ∈ device, IsArgument id) → run.2.runs = attempts) ∧
      (∀ tree, run.1 = .ok (some tree) ↔ ∃ removal status file,
        attempts = [removal, status, file] ∧ Completed attempts ∧
        Confirmed status.output ∧ Hierarchy.read file.output = .ok tree) ∧
      (run.1 = .ok none ↔ ∃ removal status rest, attempts = removal :: status :: rest ∧
        removal.succeeded = true ∧ status.succeeded = true ∧ Inactive status.output) ∧
      (run.1 ≠ .ok none → (∀ tree, run.1 ≠ .ok (some tree)) → ∃ e, run.1 = .error (.failed e))) ∧
    (Removes device w → Forgets device w → ∀ old',
      let s' : Handset ω := ⟨w, old'⟩
      (∀ found, run.1 = .ok found ↔ s'.dumped device = .ok found) ∧
      ((s.removal device).succeeded = true → run.1 = s'.dumped device) ∧
      ((s.removal device).succeeded = false → ∃ reason reason',
        verdict removeCommand (s.removal device).answer = .error (.commandFailed reason) ∧
        verdict removeCommand (s'.removal device).answer = .error (.commandFailed reason') ∧
        run.1 = .error (.failed (.commandFailed reason)) ∧
        s'.dumped device = .error (.failed (.commandFailed reason')))) := by
  intro s run
  obtain ⟨runs, hplay, hruns⟩ := Dialog.exists_runs (dump device).outcome s
  have hrun : run = _ := hplay
  rw [hrun]
  obtain ⟨attempts, hl, hd⟩ := runs_dump hruns
  refine ⟨rfl, ⟨attempts, hd, hl, fun hid => hl.eq_of_forall fun a ha => ?_,
    fun tree => hd.eq_some_iff, hd.eq_none_iff, hd.eq_error⟩, fun h hf old' => h.dumped_agree hf⟩
  obtain ⟨arguments, answer⟩ := a
  obtain ⟨c, hc, rfl⟩ := List.mem_map.mp
    (hd.map_arguments_prefix.subset (List.mem_map_of_mem ha))
  exact isLaunched_addressed.mpr ⟨hid, isArgument_of_mem c hc⟩

/-- A dump that is told of and not made: the old file is not read in its place. -/
theorem dumps_afresh_unwritten :
    let w : Screen := { text := [], writes := false }
    let old := some (Text.Utf8.encode "<node text=\"old\"/>".toList)
    Removes none w ∧ Forgets none w ∧
      (⟨w, old⟩ : Handset Screen).dumped none = (⟨w, none⟩ : Handset Screen).dumped none := by
  intro w old
  have hf : Forgets none w := by
    intro old old' _
    simp [Handset.afterRemoval, play_removal, w]
  have hs : ((⟨w, old⟩ : Handset Screen).removal none).succeeded = true := by
    simp [Handset.removal, play_removal, w, Attempt.succeeded]
  exact ⟨removes_screen w, hf, ((dumps_afresh none w old).2.2 (removes_screen w) hf none).2.1 hs⟩

/-- A removal that is refused may tell what the old file was, and so does the error then. And a device may
keep what it removes: the removal leaves no file, and yet the tree that is read is the old one. -/
theorem removal_tells :
    let old := "<node text=\"old\"/>".toList
    let file := some (Text.Utf8.encode old)
    let locked : Screen := { text := [], refuses := true }
    let hoard : Screen := { text := [], keeps := true }
    (Removes none locked ∧
      (⟨locked, file⟩ : Handset Screen).dumped none ≠
        (⟨locked, none⟩ : Handset Screen).dumped none) ∧
    (Removes none hoard ∧ (⟨hoard, file⟩ : Handset Screen).dumped none = readTree old ∧
      (⟨hoard, none⟩ : Handset Screen).dumped none = readTree [] ∧ readTree old ≠ readTree []) := by
  intro old file locked hoard
  have htold (file : Option (List UInt8)) : (⟨locked, file⟩ : Handset Screen).dumped none =
      .error (.failed (.commandFailed
        (failureText removeCommand { status := 1, errors := file.getD [] }))) := rfl
  refine ⟨⟨removes_screen locked, fun h => ?_⟩, removes_screen hoard, rfl, rfl, fun h => ?_⟩
  · rw [htold, htold] at h
    have htext := BridgeError.commandFailed.inj (Mishap.failed.inj (Except.error.inj h))
    exact absurd htext (by decide +kernel)
  · have hcount := congrArg (fun r => r.toOption.join.map Node.count) h
    exact absurd hcount (by decide +kernel)

end Bridge

end ScreenAgent
