import Mathlib.Algebra.Ring.Nat
import Mathlib.Data.List.DropRight
import ScreenAgent.Proofs.Agent.Soundness
import ScreenAgent.Proofs.Agent.Statistics

namespace ScreenAgent

/-- What was done, and what became of it. -/
def Experience.deed (e : Experience) : Action × Outcome := (e.action, e.outcome)

def Report.deed (r : Report) : Action × Outcome := (r.action, r.outcome)

/-- What a batch comes to, told by the reports of its cycles. -/
structure BatchSummary.Summarizes (b : BatchSummary) (reports : List Report) : Prop where
  size_eq : b.size = reports.length
  successes_eq : b.successes = reports.countP fun r => r.outcome.succeeded
  noOps_eq : b.noOps = reports.countP fun r => r.action = .noOp
  /-- No kind of failure is listed twice. -/
  nodup : (b.failures.map Prod.fst).Nodup
  /-- A kind is listed with the number of reports with it, if there are any. -/
  mem_failures : ∀ kind n, (kind, n) ∈ b.failures ↔
    0 < n ∧ n = reports.countP fun r => r.outcome.errorKind = some kind
  total_eq : b.successes + (b.failures.map Prod.snd).sum = b.size

section Counts

variable {κ : Type} (count : κ → Nat)

def listed? (kind : κ) : Option (κ × Nat) := if count kind = 0 then none else some (kind, count kind)

theorem mem_listed (kinds : List κ) (kind : κ) (n : Nat) :
    (kind, n) ∈ kinds.filterMap (listed? count) ↔ kind ∈ kinds ∧ 0 < n ∧ n = count kind := by
  simp only [List.mem_filterMap, listed?]
  constructor
  · rintro ⟨other, hm, he⟩
    split at he
    · cases he
    · obtain ⟨rfl, rfl⟩ := Prod.mk.inj (Option.some.inj he)
      exact ⟨hm, by omega, rfl⟩
  · rintro ⟨hm, hn, rfl⟩
    exact ⟨kind, hm, if_neg (by omega)⟩

theorem listed_sublist (kinds : List κ) :
    ((kinds.filterMap (listed? count)).map Prod.fst).Sublist kinds := by
  induction kinds with
  | nil => exact .slnil
  | cons kind kinds ih =>
    by_cases hc : count kind = 0
    · simpa [listed?, hc] using ih.cons kind
    · simpa [listed?, hc] using ih.cons_cons kind

theorem sum_listed (kinds : List κ) :
    ((kinds.filterMap (listed? count)).map Prod.snd).sum = (kinds.map count).sum := by
  induction kinds with
  | nil => rfl
  | cons kind kinds ih =>
    by_cases hc : count kind = 0 <;> simp [listed?, hc] at ih ⊢ <;> omega

end Counts

theorem Outcome.Sound.succeeded_eq_false {o : Outcome} (h : o.Sound) {kind : ErrorKind}
    (hk : o.errorKind = some kind) : o.succeeded = false := by
  obtain rfl | ⟨other, message, rfl⟩ := h
  · cases hk
  · rfl

namespace BatchSummary

theorem failures_ofBatch (batch : List Experience) :
    (ofBatch batch).failures =
      [ErrorKind.staleReference, .executionFailure].filterMap
        (listed? fun kind => batch.countP (isFailure kind)) := rfl

/-- If failures have causes, each experience is a success or a failure of one kind. -/
theorem successes_add_failures (batch : List Experience) (hs : ∀ e ∈ batch, e.outcome.Sound) :
    batch.countP (fun e => e.outcome.succeeded) + (batch.countP (isFailure .staleReference) +
      batch.countP (isFailure .executionFailure)) = batch.length := by
  induction batch with
  | nil => rfl
  | cons e batch ih =>
    have ht := ih fun other hm => hs other (List.mem_cons_of_mem _ hm)
    simp only [List.countP_cons, List.length_cons]
    obtain ho | ⟨kind, message, ho⟩ := hs e List.mem_cons_self
    · simp [isFailure, ho, Outcome.success]
      omega
    · cases kind <;> simp [isFailure, ho, Outcome.failure] <;> omega

/-- What depends on deeds only is so of as many experiences as reports of the same deeds. -/
theorem countP_deeds {batch : List Experience} {reports : List Report}
    (hd : batch.map Experience.deed = reports.map Report.deed) (q : Action × Outcome → Bool) :
    batch.countP (fun e => q e.deed) = reports.countP (fun r => q r.deed) := by
  have hc := congrArg (List.countP q) hd
  rwa [List.countP_map, List.countP_map] at hc

theorem ofBatch_summarizes {batch : List Experience} {reports : List Report}
    (hd : batch.map Experience.deed = reports.map Report.deed)
    (hs : ∀ r ∈ reports, r.outcome.Sound) : (ofBatch batch).Summarizes reports where
  size_eq := by
    have hl := congrArg List.length hd
    rwa [List.length_map, List.length_map] at hl
  successes_eq := countP_deeds hd fun d => d.2.succeeded
  noOps_eq := countP_deeds hd fun d => d.1.isNoOp
  nodup := by
    rw [failures_ofBatch]
    exact (listed_sublist _ _).nodup (by decide)
  mem_failures := by
    intro kind n
    have hc : batch.countP (isFailure kind) =
        reports.countP fun r => r.outcome.errorKind = some kind := by
      refine (countP_deeds hd fun d => !d.2.succeeded && d.2.errorKind == some kind).trans
        (List.countP_congr fun r hr => ?_)
      have hf : r.outcome.errorKind = some kind → r.outcome.succeeded = false :=
        (hs r hr).succeeded_eq_false
      simpa [Report.deed] using hf
    rw [failures_ofBatch, mem_listed, hc]
    have hm : kind ∈ [ErrorKind.staleReference, .executionFailure] := by cases kind <;> decide
    exact and_iff_right hm
  total_eq := by
    have hb : ∀ e ∈ batch, e.outcome.Sound := by
      intro e he
      obtain ⟨r, hr, hq⟩ : ∃ r ∈ reports, r.deed = e.deed := by
        have hm := List.mem_map_of_mem (f := Experience.deed) he
        rw [hd] at hm
        exact List.mem_map.mp hm
      have ho : r.outcome = e.outcome := congrArg Prod.snd hq
      exact ho ▸ hs r hr
    have ht := successes_add_failures batch hb
    rw [failures_ofBatch, sum_listed]
    simpa [ofBatch] using ht

end BatchSummary

theorem RulePolicy.update_batches (p : RulePolicy) (e : Experience) (reward : Float) :
    (p.update e reward).batches = p.batches ∧ (p.update e reward).lastBatch = p.lastBatch := by
  rw [update_eq]
  split <;> exact ⟨rfl, rfl⟩

namespace Turn

variable {ρ σ : Type}

/-- A turn without a pass: its experience joins those that wait in the buffer. -/
structure Waits (turn : Turn RulePolicy ρ σ) (e : Experience) : Prop where
  room : turn.before.learner.buffer.length + 1 < turn.before.learner.capacity
  record_eq : ∃ reward, turn.report.record = .recorded reward false
  buffer_eq : turn.after.learner.buffer = turn.before.learner.buffer ++ [e]
  runs_eq : turn.after.learner.runs = turn.before.learner.runs
  batches_eq : turn.after.policy.batches = turn.before.policy.batches
  lastBatch_eq : turn.after.policy.lastBatch = turn.before.policy.lastBatch

/-- A turn with a pass: its experience fills the buffer, and the policy is told of all in it. -/
structure HandsOn (turn : Turn RulePolicy ρ σ) (e : Experience) : Prop where
  full : turn.before.learner.capacity ≤ turn.before.learner.buffer.length + 1
  record_eq : ∃ reward, turn.report.record = .recorded reward true
  buffer_eq : turn.after.learner.buffer = []
  runs_eq : turn.after.learner.runs = turn.before.learner.runs + 1
  batches_eq : turn.after.policy.batches = turn.before.policy.batches + 1
  lastBatch_eq : turn.after.policy.lastBatch =
    some (.ofBatch (turn.before.learner.buffer ++ [e]))

end Turn

namespace Agent

variable {ρ σ τ ν : Type}

theorem cycle_waits_or_hands_on [Reward ρ] [Sink σ] [TreeView ν] {a b : Agent RulePolicy ρ σ}
    {stamp : Stamp} {root : Option ν} {es : List Exchange} {report : Report}
    (hf : Reward.StaysFinite a.learner.reward) (h : (a.cycle stamp root).Runs es (report, b)) :
    ∃ e : Experience, e.deed = report.deed ∧
      (Turn.Waits ⟨a, report, b⟩ e ∨ Turn.HandsOn ⟨a, report, b⟩ e) := by
  obtain ⟨stamp', optimized, hr⟩ := (cycle_cycled hf h).record_eq
  obtain ⟨o, -, hc⟩ := Plan.runs_map h
  let s := a.perception.analyze root
  let m : Moment := ⟨stamp, s, a.policy.decide s, o⟩
  obtain ⟨rfl, rfl⟩ : (a.conclude m.stamp m.snapshot m.action m.outcome).1 = report ∧
      (a.conclude m.stamp m.snapshot m.action m.outcome).2 = b := Prod.mk.inj hc
  have hu := fun reward => a.policy.update_batches (m.experience reward) reward
  -- what the learner makes of the moment is what the report and the agent after it are made of
  obtain ⟨anomaly, calculator, he⟩ | ⟨reward, calculator, hl, he⟩ | ⟨reward, calculator, hl, he⟩ :=
    a.learner.take_cases m a.policy
  · have hd : (a.learner.take m a.policy).1 = .recorded _ optimized := hr
    rw [he] at hd
    cases hd
  · obtain ⟨hb, hp⟩ := hu reward
    refine ⟨m.experience reward, rfl, .inl ?_⟩
    exact {
      room := hl
      record_eq := ⟨reward, congrArg Prod.fst he⟩
      buffer_eq := congrArg (fun taken => taken.2.1.buffer) he
      runs_eq := congrArg (fun taken => taken.2.1.runs) he
      batches_eq := (congrArg (fun taken => taken.2.2.batches) he).trans hb
      lastBatch_eq := (congrArg (fun taken => taken.2.2.lastBatch) he).trans hp }
  · obtain ⟨hb, -⟩ := hu reward
    refine ⟨m.experience reward, rfl, .inr ?_⟩
    exact {
      full := hl
      record_eq := ⟨reward, congrArg Prod.fst he⟩
      buffer_eq := congrArg (fun taken => taken.2.1.buffer) he
      runs_eq := congrArg (fun taken => taken.2.1.runs) he
      batches_eq := (congrArg (fun taken => taken.2.2.batches) he).trans (congrArg (· + 1) hb)
      lastBatch_eq := congrArg (fun taken => taken.2.2.lastBatch) he }

/-- What is so of an agent after turns in which nothing was dropped: its policy has been told of every
batch, and what was done in the last turns waits in the buffer. -/
structure Batched [Reward ρ] (capacity : Nat) (past : List (Turn RulePolicy ρ σ))
    (a : Agent RulePolicy ρ σ) : Prop where
  unbroken : Unbroken capacity past a
  staysFinite : Reward.StaysFinite a.learner.reward
  batches_eq : a.policy.batches = a.learner.runs
  recent : a.learner.buffer.map Experience.deed <:+ past.map fun turn => turn.report.deed
  sound : ∀ turn ∈ past, turn.report.outcome.Sound

namespace Batched

variable [Reward ρ] {capacity : Nat} {past : List (Turn RulePolicy ρ σ)}
  {a : Agent RulePolicy ρ σ} {turn : Turn RulePolicy ρ σ} {e : Experience}

theorem start (config : Config) (goal : Goal) {calculator : ρ}
    (hf : Reward.StaysFinite calculator) (sink : Option σ) :
    Batched (max 1 config.bufferCapacity) []
      (ofConfig config (RulePolicy.ofGoal goal) calculator sink) where
  unbroken := .start config _ calculator sink
  staysFinite := hf
  batches_eq := rfl
  recent := List.suffix_refl _
  sound := by simp

theorem recent_append (h : Batched capacity past turn.before) (hd : e.deed = turn.report.deed) :
    (turn.before.learner.buffer ++ [e]).map Experience.deed <:+
      (past ++ [turn]).map fun turn => turn.report.deed := by
  obtain ⟨earlier, he⟩ := h.recent
  refine ⟨earlier, ?_⟩
  rw [List.map_append, List.map_append, ← he, List.append_assoc]
  simp [hd]

theorem cycled [Sink σ] [TreeView ν] {stamp : Stamp} {root : Option ν} {es : List Exchange}
    (h : Batched capacity past turn.before)
    (hr : (turn.before.cycle stamp root).Runs es (turn.report, turn.after)) :
    Batched capacity (past ++ [turn]) turn.after := by
  have hc := cycle_cycled h.staysFinite hr
  obtain ⟨e, hd, ht⟩ := cycle_waits_or_hands_on h.staysFinite hr
  refine ⟨h.unbroken.cycled hc, hc.staysFinite, ?_, ?_, ?_⟩
  · obtain ht | ht := ht
    · exact ht.batches_eq.trans (h.batches_eq.trans ht.runs_eq.symm)
    · exact ht.batches_eq.trans ((congrArg (· + 1) h.batches_eq).trans ht.runs_eq.symm)
  · obtain ht | ht := ht
    · rw [ht.buffer_eq]
      exact h.recent_append hd
    · rw [ht.buffer_eq]
      exact List.nil_suffix
  · intro other hm
    obtain hm | rfl := (List.mem_append.mp hm).imp_right List.mem_singleton.mp
    · exact h.sound other hm
    · exact hc.sound

/-- The batch of a pass is a batch of the last turns, as many as there is room for. -/
theorem summarizes_recent (h : Batched capacity past turn.before)
    (hn : Batched capacity (past ++ [turn]) turn.after) (hd : e.deed = turn.report.deed)
    (ht : turn.HandsOn e) :
    let batch := turn.before.learner.buffer ++ [e]
    batch.length = capacity ∧ (BatchSummary.ofBatch batch).Summarizes
      (((past ++ [turn]).map Turn.report).rtake capacity) := by
  intro batch
  have hl : batch.length = capacity := by
    have hb := h.unbroken.fits.below
    have hf := ht.full
    rw [h.unbroken.capacity_eq] at hb hf
    rw [List.length_append, List.length_singleton]
    exact Nat.le_antisymm hb hf
  have hr := List.suffix_iff_eq_drop.mp (h.recent_append hd)
  refine ⟨hl, BatchSummary.ofBatch_summarizes ?_ fun r hm => ?_⟩
  · rw [hr, List.rtake, ← hl]
    simp [batch, List.map_drop, Function.comp_def]
  · obtain ⟨other, ho, rfl⟩ := List.mem_map.mp (List.mem_of_mem_drop hm)
    exact hn.sound other ho

/-- There is nothing in the buffer exactly after each full number of turns. -/
theorem dvd_iff (h : Batched capacity past a) :
    capacity ∣ past.length ↔ a.learner.buffer = [] := by
  have hb := h.unbroken.fits.below
  rw [h.unbroken.capacity_eq] at hb
  rw [h.unbroken.length_eq, Nat.dvd_add_right (Nat.dvd_mul_right _ _), ← List.length_eq_zero_iff]
  refine ⟨fun hd => Nat.eq_zero_of_dvd_of_lt hd hb, fun hz => ?_⟩
  rw [hz]
  exact Nat.dvd_zero capacity

end Batched

/-- Whatever the goal, the capacity and the surface: the policy of a new agent with the default reward
has been told of as many batches as there were passes. There is a pass in every cycle whose number is a
multiple of the capacity, and the report says so; after it the last batch is a summary of as many
cycles as there is room for, this one the last of them. Other cycles leave the last batch alone. -/
theorem passes_summarize [Sink σ] [TreeView ν] (config : Config) (goal : Goal)
    (calculator : ShapedReward) (sink : Option σ) (surface : Surface (StateM τ))
    (stamps : Nat → Stamp) (roots : List (Option ν)) (t : τ) :
    let capacity := max 1 config.bufferCapacity
    let start := ofConfig config (RulePolicy.ofGoal goal) calculator sink
    let run := attendAll surface stamps start roots t
    (surface.Answers → run.1.length = roots.length) ∧
    run.2.policy.batches = run.2.learner.runs ∧
    ∀ past turn, past ++ [turn] <+: run.1 →
      turn.before = (past.getLast?.map Turn.after).getD start ∧
      turn.after.policy.batches = turn.after.learner.runs ∧
      (∃ reward, turn.report.record = .recorded reward (decide (capacity ∣ past.length + 1))) ∧
      if capacity ∣ past.length + 1 then
        turn.after.learner.runs = turn.before.learner.runs + 1 ∧
        ∃ b, turn.after.policy.lastBatch = some b ∧ b.size = capacity ∧
          b.Summarizes (((past ++ [turn]).map Turn.report).rtake capacity)
      else
        turn.after.learner.runs = turn.before.learner.runs ∧
        turn.after.policy.lastBatch = turn.before.policy.lastBatch := by
  intro capacity start run
  have hl : Leads ν start run.1 run.2 := attendAll_leads surface stamps start roots t
  -- where a run has come to is where its last turn left it
  have hs := hl.holds (fun past a => Batched capacity past a ∧
      a = (past.getLast?.map Turn.after).getD start)
    (fun past a stamp root es report b h hr => ⟨h.1.cycled hr, by simp⟩) []
    ⟨.start config goal calculator.staysFinite sink, rfl⟩
  refine ⟨fun ha => length_attendAll surface ha stamps start roots t, hs.1.1.batches_eq,
    fun past turn hm => ?_⟩
  obtain ⟨⟨hb, hq⟩, ⟨hn, -⟩, stamp, es, root, hr⟩ := hs.2 past turn hm
  obtain ⟨e, hd, ht⟩ := cycle_waits_or_hands_on hb.staysFinite hr
  have hz := hn.dvd_iff
  rw [List.length_append, List.length_singleton] at hz
  refine ⟨hq, hn.batches_eq, ?_⟩
  obtain ht | ht := ht
  · have hc : ¬ capacity ∣ past.length + 1 := fun hc => by
      have he := ht.buffer_eq.symm.trans (hz.mp hc)
      simp at he
    rw [if_neg hc, decide_eq_false hc]
    exact ⟨ht.record_eq, ht.runs_eq, ht.lastBatch_eq⟩
  · have hc : capacity ∣ past.length + 1 := hz.mpr ht.buffer_eq
    obtain ⟨hsize, hsum⟩ := hb.summarizes_recent hn hd ht
    rw [if_pos hc, decide_eq_true hc]
    exact ⟨ht.record_eq, ht.runs_eq, _, ht.lastBatch_eq, hsize, hsum⟩

end Agent

end ScreenAgent
