import ScreenAgent.Proofs.Agent.Run

namespace ScreenAgent

/-- A report of an experience that was recorded: its reward tells whether it was a success, what was
done was done to an element of the snapshot, and no success has a cause to fail. -/
structure Report.Sound (r : Report) : Prop where
  recorded : ∃ reward optimized, r.record = .recorded reward optimized ∧ reward.isFinite = true ∧
    (0 < reward ↔ r.outcome.succeeded = true) ∧ (reward < 0 ↔ r.outcome.succeeded = false)
  resolves : ∀ target, r.action.target? = some target →
    (r.snapshot.resolve? target).isSome = true
  consistent : r.outcome.succeeded = true → r.outcome.errorKind = none

theorem Outcome.Sound.errorKind_eq_none {o : Outcome} (h : o.Sound) (hs : o.succeeded = true) :
    o.errorKind = none := by
  rcases h with rfl | ⟨kind, message, rfl⟩
  · rfl
  · cases hs

theorem Cycled.report_sound {σ : Type} {a b : Agent RulePolicy ShapedReward σ} {report : Report}
    (h : Cycled a report b) : report.Sound where
  recorded := by
    obtain ⟨stamp, optimized, hr⟩ := h.record_eq
    have hf := ShapedReward.score_isFinite report.snapshot report.action report.outcome
    have hp := ShapedReward.score_pos_iff report.snapshot report.action report.outcome
    have hn := ShapedReward.score_neg_iff report.snapshot report.action report.outcome
    exact ⟨_, optimized, hr, hf, hp, hn⟩
  resolves := by
    rw [h.action_eq]
    exact a.policy.resolve?_decide report.snapshot
  consistent := h.sound.errorKind_eq_none

namespace Agent

variable {ρ σ τ ν : Type}

/-- What is so of an agent after turns in which nothing was dropped. -/
structure Unbroken (capacity : Nat) (past : List (Turn RulePolicy ρ σ)) (a : Agent RulePolicy ρ σ) :
    Prop where
  cycles_eq : a.cycles = past.length
  dropped_eq : a.learner.dropped = 0
  capacity_eq : a.learner.capacity = capacity
  fits : a.learner.Fits past.length

namespace Unbroken

variable {capacity : Nat} {past : List (Turn RulePolicy ρ σ)} {a b : Agent RulePolicy ρ σ}

theorem start (config : Config) (p : RulePolicy) (calculator : ρ) (sink : Option σ) :
    Unbroken (max 1 config.bufferCapacity) [] (ofConfig config p calculator sink) where
  cycles_eq := rfl
  dropped_eq := rfl
  capacity_eq := rfl
  fits := Learner.fits_ofCapacity config.bufferCapacity calculator sink

theorem cycled [Reward ρ] {report : Report} (h : Unbroken capacity past a)
    (hc : Cycled a report b) : Unbroken capacity (past ++ [⟨a, report, b⟩]) b where
  cycles_eq := by rw [hc.cycles_eq, h.cycles_eq, List.length_append, List.length_singleton]
  dropped_eq := hc.dropped_eq.trans h.dropped_eq
  capacity_eq := hc.capacity_eq.trans h.capacity_eq
  fits := by
    rw [List.length_append, List.length_singleton]
    exact hc.fits past.length h.fits

theorem length_eq (h : Unbroken capacity past a) :
    past.length = capacity * a.learner.runs + a.learner.buffer.length := by
  have hc := h.fits.calls_eq
  rw [h.dropped_eq, h.capacity_eq, Nat.zero_add] at hc
  exact hc

end Unbroken

/-- Whatever goal an agent with the default reward is at, and whatever the surface says: every cycle
is numbered and recorded, and is in a batch or in the buffer after it. -/
theorem never_drops [Sink σ] [TreeView ν] (config : Config) (p : RulePolicy)
    (calculator : ShapedReward) (sink : Option σ) (surface : Surface (StateM τ))
    (stamps : Nat → Stamp) (roots : List (Option ν)) (t : τ) :
    let run := attendAll surface stamps (ofConfig config p calculator sink) roots t
    (surface.Answers → run.1.length = roots.length) ∧
    ∀ past turn, past ++ [turn] <+: run.1 →
      turn.report.Sound ∧ turn.report.cycle = past.length + 1 ∧
      turn.after.learner.dropped = 0 ∧
      turn.after.learner.buffer.length < max 1 config.bufferCapacity ∧
      past.length + 1 = max 1 config.bufferCapacity * turn.after.learner.runs +
        turn.after.learner.buffer.length := by
  intro run
  have hl : Leads ν _ run.1 run.2 := attendAll_leads surface stamps _ roots t
  have hs := hl.keeps (Unbroken (max 1 config.bufferCapacity)) (fun _ _ _ _ h hc => h.cycled hc)
    calculator.staysFinite [] (.start config p calculator sink)
  refine ⟨fun ha => length_attendAll surface ha stamps _ roots t, fun past turn hm => ?_⟩
  obtain ⟨hu, hc⟩ := hs.2 past turn hm
  have hn : past.length + 1 = ([] ++ past ++ [turn]).length := by simp
  have hb := hu.fits.below
  rw [hu.capacity_eq] at hb
  rw [hn]
  refine ⟨hc.report_sound, ?_, hu.dropped_eq, hb, hu.length_eq⟩
  rw [hc.cycle_eq, ← hc.cycles_eq, hu.cycles_eq]

end Agent

end ScreenAgent
