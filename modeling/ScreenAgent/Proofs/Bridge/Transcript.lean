import ScreenAgent.Bridge.Command

namespace ScreenAgent

/-- An attempt to run the bridge: its arguments, and what came of it. -/
structure Attempt where
  arguments : List String
  answer : Except LaunchError Reply

/-- A text that can be passed on as an argument. -/
def IsArgument (s : String) : Prop := '\x00' ∉ s.toList

instance (s : String) : Decidable (IsArgument s) := inferInstanceAs (Decidable (_ ∉ _))

namespace Attempt

/-- Whether the arguments can be passed on; if one of them can not, nothing is run. -/
def isLaunched (a : Attempt) : Bool := !a.arguments.any fun s => s.toList.contains '\x00'

/-- Whether the bridge was run and ended with status zero. -/
def succeeded (a : Attempt) : Bool :=
  match a.answer with
  | .ok r => r.status == 0
  | .error _ => false

def output (a : Attempt) : List Char :=
  match a.answer with
  | .ok r => Text.Utf8.decodeLossy r.output
  | .error _ => []

theorem isLaunched_iff {a : Attempt} : a.isLaunched = true ↔ ∀ s ∈ a.arguments, IsArgument s := by
  simp [isLaunched, IsArgument]

end Attempt

/-- The runs of the bridge that some attempts lead to. An attempt whose arguments can not be passed on
leads to none and fails. -/
structure Launched (attempts runs : List Attempt) : Prop where
  runs_eq : runs = attempts.filter Attempt.isLaunched
  refused : ∀ a ∈ attempts, a.isLaunched = false → a.answer = .error .nulByte

namespace Launched

variable {attempts runs attempts' runs' : List Attempt}

theorem nil : Launched [] [] := ⟨rfl, nofun⟩

theorem append (h : Launched attempts runs) (h' : Launched attempts' runs') :
    Launched (attempts ++ attempts') (runs ++ runs') where
  runs_eq := by rw [h.runs_eq, h'.runs_eq, List.filter_append]
  refused a ha := (List.mem_append.mp ha).elim (h.refused a) (h'.refused a)

theorem mem (h : Launched attempts runs) {a : Attempt} (ha : a ∈ runs) :
    a ∈ attempts ∧ a.isLaunched = true := by
  rw [h.runs_eq] at ha
  exact List.mem_filter.mp ha

theorem mem_of_succeeded (h : Launched attempts runs) {a : Attempt} (ha : a ∈ attempts)
    (hs : a.succeeded = true) : a ∈ runs := by
  rw [h.runs_eq, List.mem_filter]
  cases hl : a.isLaunched with
  | true => exact ⟨ha, rfl⟩
  | false => simp [Attempt.succeeded, h.refused a ha hl] at hs

theorem eq_of_forall (h : Launched attempts runs) (ha : ∀ a ∈ attempts, a.isLaunched = true) :
    runs = attempts := by
  rw [h.runs_eq, List.filter_eq_self.mpr ha]

end Launched

/-- A host with a record of what it was asked and what it answered. -/
structure Recorded (δ : Type) where
  host : δ
  runs : List Attempt := []

instance {δ : Type} [Host δ] : Host (Recorded δ) where
  respond h arguments :=
    let (answer, host) := Host.respond h.host arguments
    (answer, ⟨host, h.runs ++ [⟨arguments, answer⟩]⟩)

namespace Dialog

variable {α β δ : Type}

/-- The runs of the bridge in a dialog, and what comes of it. -/
inductive Runs : Dialog α → List Attempt → α → Prop
  | done (a : α) : Runs (.done a) [] a
  | invoke {arguments : List String} {next : Except LaunchError Reply → Dialog α}
      (r : Except LaunchError Reply) {runs : List Attempt} {a : α} (h : Runs (next r) runs a) :
      Runs (.invoke arguments next) (⟨arguments, r⟩ :: runs) a

theorem runs_pure_iff {a b : α} {runs : List Attempt} :
    (pure a : Dialog α).Runs runs b ↔ runs = [] ∧ b = a := by
  constructor
  · rintro ⟨⟩
    exact ⟨rfl, rfl⟩
  · rintro ⟨rfl, rfl⟩
    exact .done b

theorem runs_bind {d : Dialog α} {f : α → Dialog β} {runs : List Attempt} {b : β}
    (h : (d >>= f).Runs runs b) :
    ∃ before a after, runs = before ++ after ∧ d.Runs before a ∧ (f a).Runs after b := by
  induction d generalizing runs with
  | done a => exact ⟨[], a, runs, rfl, .done a, h⟩
  | invoke arguments next ih =>
    cases h with
    | invoke r h =>
      obtain ⟨before, a, after, rfl, hd, hf⟩ := ih r h
      exact ⟨⟨arguments, r⟩ :: before, a, after, rfl, .invoke r hd, hf⟩

theorem runs_launch {arguments : List String} {runs : List Attempt}
    {r : Except LaunchError Reply} (h : (launch arguments).Runs runs r) :
    Launched [⟨arguments, r⟩] runs := by
  rw [launch] at h
  split at h
  · rename_i hn
    obtain ⟨rfl, rfl⟩ := runs_pure_iff.mp h
    have hl : Attempt.isLaunched ⟨arguments, .error .nulByte⟩ = false := by
      rw [Attempt.isLaunched, hn]
      rfl
    exact ⟨by simp [hl], by simp⟩
  · rename_i hn
    cases h with
    | invoke r h =>
      cases h
      have hl : Attempt.isLaunched ⟨arguments, r⟩ = true := by simpa [Attempt.isLaunched] using hn
      exact ⟨by simp [hl], by simp [hl]⟩

/-- A record changes nothing, and what is recorded are the runs of the dialog. -/
theorem play_recorded [Host δ] (d : Dialog α) (h : δ) (before : List Attempt) :
    ∃ runs, d.play (⟨h, before⟩ : Recorded δ) = ((d.play h).1, ⟨(d.play h).2, before ++ runs⟩) ∧
      d.Runs runs (d.play h).1 := by
  induction d generalizing h before with
  | done a => exact ⟨[], by simp [play], .done a⟩
  | invoke arguments next ih =>
    obtain ⟨runs, hplay, hruns⟩ := ih (Host.respond h arguments).1 (Host.respond h arguments).2
      (before ++ [⟨arguments, (Host.respond h arguments).1⟩])
    refine ⟨⟨arguments, (Host.respond h arguments).1⟩ :: runs, ?_, .invoke _ hruns⟩
    rw [List.append_assoc, List.singleton_append] at hplay
    exact hplay

theorem exists_runs [Host δ] (d : Dialog α) (h : δ) :
    ∃ runs, d.play (⟨h, []⟩ : Recorded δ) = ((d.play h).1, ⟨(d.play h).2, runs⟩) ∧
      d.Runs runs (d.play h).1 :=
  play_recorded d h []

theorem play_bind [Host δ] (d : Dialog α) (f : α → Dialog β) (h : δ) :
    (d >>= f).play h = (f (d.play h).1).play (d.play h).2 := by
  induction d generalizing h with
  | done a => rfl
  | invoke arguments next ih => exact ih _ _

theorem play_launch [Host δ] (arguments : List String) (h : δ) : (launch arguments).play h =
    if arguments.any fun s => s.toList.contains '\x00' then (.error .nulByte, h)
    else Host.respond h arguments := by
  rw [launch]
  split <;> rfl

end Dialog

namespace Bridge

variable {α β : Type} {device : Option String}

def addressed (device : Option String) (command : List String) : List String :=
  (match device with
    | some id => ["-s", id]
    | none => []) ++ command

/-- What comes of a command by the answer to it. -/
def verdict (command : List String) : Except LaunchError Reply → Except BridgeError (List Char)
  | .error e => .error (.commandFailed e.message)
  | .ok r =>
    if r.status = 0 then .ok (Text.Utf8.decodeLossy r.output)
    else .error (.commandFailed (failureText command r))

theorem addressed_inj {c d : List String} : addressed device c = addressed device d ↔ c = d :=
  List.append_right_inj _

theorem isLaunched_addressed {c : List String} {answer : Except LaunchError Reply} :
    (⟨addressed device c, answer⟩ : Attempt).isLaunched = true ↔
      (∀ id ∈ device, IsArgument id) ∧ ∀ s ∈ c, IsArgument s := by
  rw [Attempt.isLaunched_iff]
  cases device with
  | none => simp [addressed]
  | some id =>
    have hs : IsArgument "-s" := by decide
    simp [addressed, hs]

theorem succeeded_of_verdict (arguments : List String) {command : List String}
    {answer : Except LaunchError Reply} {out : List Char} (h : verdict command answer = .ok out) :
    (⟨arguments, answer⟩ : Attempt).succeeded = true ∧
      out = (⟨arguments, answer⟩ : Attempt).output := by
  cases answer with
  | error e => cases h
  | ok r =>
    by_cases hs : r.status = 0
    · rw [verdict, if_pos hs] at h
      exact ⟨beq_iff_eq.mpr hs, (Except.ok.inj h).symm⟩
    · rw [verdict, if_neg hs] at h
      cases h

theorem not_succeeded_of_verdict {arguments command : List String}
    {answer : Except LaunchError Reply} {e : BridgeError} (h : verdict command answer = .error e) :
    (⟨arguments, answer⟩ : Attempt).succeeded = false := by
  cases answer with
  | error e => rfl
  | ok r =>
    by_cases hs : r.status = 0
    · rw [verdict, if_pos hs] at h
      cases h
    · exact beq_false_of_ne hs

theorem verdict_of_succeeded {a : Attempt} (h : a.succeeded = true) (command : List String) :
    ∃ out, verdict command a.answer = .ok out := by
  obtain ⟨arguments, answer⟩ := a
  cases answer with
  | error e => cases h
  | ok r => exact ⟨_, if_pos (beq_iff_eq.mp h)⟩

theorem verdict_of_not_succeeded {a : Attempt} (h : a.succeeded = false) (command : List String) :
    ∃ reason, verdict command a.answer = .error (.commandFailed reason) := by
  obtain ⟨arguments, answer⟩ := a
  cases answer with
  | error e => exact ⟨_, rfl⟩
  | ok r => exact ⟨_, if_neg (beq_eq_false_iff_ne.mp h)⟩

theorem runs_bind {b : Bridge α} {f : α → Bridge β} {runs : List Attempt} {r : Except Mishap β}
    (h : (b >>= f).outcome.Runs runs r) :
    (∃ e, b.outcome.Runs runs (.error e) ∧ r = .error e) ∨
    ∃ before a after, runs = before ++ after ∧ b.outcome.Runs before (.ok a) ∧
      (f a).outcome.Runs after r := by
  obtain ⟨before, x, after, rfl, hb, hf⟩ := Dialog.runs_bind (d := b.outcome) h
  cases x with
  | error e =>
    obtain ⟨rfl, rfl⟩ := Dialog.runs_pure_iff.mp hf
    exact .inl ⟨e, by rwa [List.append_nil], rfl⟩
  | ok a => exact .inr ⟨before, a, after, rfl, hb, hf⟩

theorem runs_pure {a : α} {runs : List Attempt} {r : Except Mishap α}
    (h : (pure a : Bridge α).outcome.Runs runs r) : runs = [] ∧ r = .ok a :=
  Dialog.runs_pure_iff.mp h

theorem runs_lift {d : Dialog α} {runs : List Attempt} {r : Except Mishap α}
    (h : (Bridge.outcome (ExceptT.lift d)).Runs runs r) : ∃ a, r = .ok a ∧ d.Runs runs a := by
  obtain ⟨before, a, after, rfl, hd, hf⟩ := Dialog.runs_bind (d := d) h
  obtain ⟨rfl, rfl⟩ := Dialog.runs_pure_iff.mp hf
  exact ⟨a, rfl, by rwa [List.append_nil]⟩

theorem outcome_lift_bind (d : Dialog α) (f : α → Bridge β) :
    (ExceptT.lift d >>= f : Bridge β).outcome = d >>= fun a => (f a).outcome := by
  induction d with
  | done a => rfl
  | invoke arguments next ih => exact congrArg (Dialog.invoke arguments) (funext ih)

/-- A command is one attempt, and then its verdict. -/
theorem outcome_command (c : List String) : (command device c).outcome =
    Dialog.launch (addressed device c) >>= fun answer =>
      pure ((verdict c answer).mapError .failed) := by
  refine (outcome_lift_bind _ _).trans (congrArg (Dialog.launch _ >>= ·) (funext fun answer => ?_))
  cases answer with
  | error e => rfl
  | ok r =>
    by_cases hs : r.status = 0
    · simp only [ne_eq, hs, not_true_eq_false, if_false, verdict, if_true]
      rfl
    · simp only [ne_eq, hs, not_false_eq_true, if_true, verdict, if_false]
      rfl

/-- Work that begins with a command goes on from what the host has become, unless the command fails. -/
theorem play_command_bind {δ : Type} [Host δ] (c : List String) (f : List Char → Bridge α) (h : δ) :
    let asked := (Dialog.launch (addressed device c)).play h
    (command device c >>= f).outcome.play h =
      match verdict c asked.1 with
      | .error e => (.error (.failed e), asked.2)
      | .ok out => (f out).outcome.play asked.2 := by
  intro asked
  have hbind : (command device c >>= f).outcome =
      (command device c).outcome >>= ExceptT.bindCont f := rfl
  rw [hbind, outcome_command, Dialog.play_bind, Dialog.play_bind]
  change (ExceptT.bindCont f ((verdict c asked.1).mapError .failed)).play asked.2 = _
  cases verdict c asked.1 with
  | error e => rfl
  | ok out => rfl

theorem runs_command {c : List String} {runs : List Attempt} {r : Except Mishap (List Char)}
    (h : (command device c).outcome.Runs runs r) :
    ∃ answer, Launched [⟨addressed device c, answer⟩] runs ∧
      r = (verdict c answer).mapError .failed := by
  rw [outcome_command] at h
  obtain ⟨before, answer, after, rfl, hl, hf⟩ := Dialog.runs_bind h
  obtain ⟨rfl, rfl⟩ := Dialog.runs_pure_iff.mp hf
  rw [List.append_nil]
  exact ⟨answer, Dialog.runs_launch hl, rfl⟩

theorem runs_command_ok {c : List String} {runs : List Attempt} {out : List Char}
    (h : (command device c).outcome.Runs runs (.ok out)) :
    ∃ answer, Launched [⟨addressed device c, answer⟩] runs ∧ verdict c answer = .ok out := by
  obtain ⟨answer, hl, hr⟩ := runs_command h
  cases hv : verdict c answer with
  | error e =>
    rw [hv] at hr
    cases hr
  | ok o =>
    rw [hv] at hr
    cases hr
    exact ⟨answer, hl, hv⟩

theorem runs_command_error {c : List String} {runs : List Attempt} {m : Mishap}
    (h : (command device c).outcome.Runs runs (.error m)) :
    ∃ answer e, Launched [⟨addressed device c, answer⟩] runs ∧ verdict c answer = .error e ∧
      m = .failed e := by
  obtain ⟨answer, hl, hr⟩ := runs_command h
  cases hv : verdict c answer with
  | error e =>
    rw [hv] at hr
    cases hr
    exact ⟨answer, e, hl, hv, rfl⟩
  | ok o =>
    rw [hv] at hr
    cases hr

end Bridge

end ScreenAgent
