import ScreenAgent.Agent.Cycle
import ScreenAgent.Proofs.Agent.Decision
import ScreenAgent.Proofs.Agent.Execution
import ScreenAgent.Proofs.Learning.Recording
import ScreenAgent.Proofs.Learning.Rewards

namespace ScreenAgent

/-- An outcome is a success without a cause, or a failure with a cause and a message. -/
def Outcome.Sound (o : Outcome) : Prop :=
  o = .success ∨ ∃ kind message, o = .failure kind message

namespace Action

theorem execute_sound {p : Perception} {action : Action} {es : List Exchange} {o : Outcome}
    (h : (action.execute p).Runs es o) : o.Sound := by
  obtain ⟨-, ht⟩ := execute_runs h
  have hk := ht.kind_iff
  have hm := ht.message_iff
  obtain ⟨succeeded, kind, message⟩ := o
  cases succeeded with
  | true =>
    obtain rfl : kind = none := hk.mpr rfl
    obtain rfl : message = none := hm.mpr rfl
    exact .inl rfl
  | false =>
    obtain ⟨k, rfl⟩ : ∃ k, kind = some k := Option.ne_none_iff_exists'.mp (by simpa using hk)
    obtain ⟨m, rfl⟩ : ∃ m, message = some m := Option.ne_none_iff_exists'.mp (by simpa using hm)
    exact .inr ⟨k, m, rfl⟩

theorem execute_noOp {p : Perception} {es : List Exchange} {o : Outcome}
    (h : (noOp.execute p).Runs es o) : o = .success := by
  cases h
  rfl

end Action

theorem RulePolicy.sound_decide (p : RulePolicy) (m : Moment) (ha : m.action = p.decide m.snapshot)
    (ho : m.outcome.Sound) : m.IsSound where
  known := by
    rintro target ⟨ht, hr⟩
    have hs := p.resolve?_decide m.snapshot target (ha ▸ ht)
    rw [hr] at hs
    cases hs
  consistent := by
    rintro ⟨hs, hk⟩
    obtain ho | ⟨kind, message, ho⟩ := ho
    · exact hk (by rw [ho]; rfl)
    · rw [ho] at hs
      cases hs

/-- Two policies are as far with the same goal and know the same of its steps. -/
structure RulePolicy.Agrees (p q : RulePolicy) : Prop where
  goal_eq : p.goal = q.goal
  cursor_eq : p.cursor = q.cursor
  stats_eq : p.stats = q.stats

/-- What a cycle of an agent with a goal does if its calculator stays finite. -/
structure Cycled {ρ σ : Type} [Reward ρ] (a : Agent RulePolicy ρ σ) (report : Report)
    (b : Agent RulePolicy ρ σ) : Prop where
  action_eq : report.action = a.policy.decide report.snapshot
  sound : report.outcome.Sound
  noOp : report.action = .noOp → report.outcome = .success
  record_eq : ∃ stamp optimized, report.record = .recorded (Reward.score a.learner.reward
    (Moment.experience ⟨stamp, report.snapshot, report.action, report.outcome⟩ 0)).1 optimized
  cycle_eq : report.cycle = a.cycles + 1
  complete_eq : report.policyComplete = b.policy.isComplete
  policy_agrees : ∃ reward, b.policy.Agrees
    (if report.action = .noOp then a.policy else a.policy.credit report.outcome.succeeded reward)
  perception_eq : b.perception = a.perception
  cycles_eq : b.cycles = a.cycles + 1
  dropped_eq : b.learner.dropped = a.learner.dropped
  capacity_eq : b.learner.capacity = a.learner.capacity
  staysFinite : Reward.StaysFinite b.learner.reward
  fits : ∀ calls, a.learner.Fits calls → b.learner.Fits (calls + 1)

namespace Agent

variable {ρ σ ν : Type} [Reward ρ] [Sink σ]

theorem conclude_cycled (a : Agent RulePolicy ρ σ) (m : Moment)
    (ha : m.action = a.policy.decide m.snapshot) (ho : m.outcome.Sound)
    (hn : m.action = .noOp → m.outcome = .success)
    (hf : Reward.StaysFinite a.learner.reward) :
    Cycled a (a.conclude m.stamp m.snapshot m.action m.outcome).1
      (a.conclude m.stamp m.snapshot m.action m.outcome).2 := by
  have hs := (a.policy.sound_decide m ha ho).anomaly?_eq_none
  have hr := hf.score (m.experience 0)
  have hk := hf.next (m.experience 0)
  obtain ⟨reward, calculator, hc⟩ : ∃ reward calculator,
      Reward.score a.learner.reward (m.experience 0) = (reward, calculator) := ⟨_, _, rfl⟩
  rw [hc] at hr hk
  obtain ⟨optimized, hr, hd, hl, hp⟩ := a.learner.take_of_finite m a.policy hs hc hr
  have hu : Policy.update a.policy (m.experience reward) reward =
      if m.action = .noOp then a.policy else a.policy.credit m.outcome.succeeded reward :=
    a.policy.update_decide (m.experience reward) reward ha
  rw [hu] at hp
  exact {
    action_eq := ha
    sound := ho
    noOp := hn
    record_eq := by
      refine ⟨m.stamp, optimized, ?_⟩
      change (a.learner.take m a.policy).1 = .recorded (Reward.score _ (m.experience 0)).1 optimized
      rw [hr, hc]
    cycle_eq := rfl
    complete_eq := rfl
    policy_agrees := by
      refine ⟨reward, ?_⟩
      change (a.learner.take m a.policy).2.2.Agrees (if m.action = .noOp then _ else _)
      rw [hp]
      cases optimized <;> exact ⟨rfl, rfl, rfl⟩
    perception_eq := rfl
    cycles_eq := rfl
    dropped_eq := hd
    capacity_eq := a.learner.take_capacity m a.policy
    staysFinite := by
      change Reward.StaysFinite (a.learner.take m a.policy).2.1.reward
      rw [hl]
      exact hk
    fits := fun calls h => h.take m a.policy }

theorem cycle_cycled [TreeView ν] {a b : Agent RulePolicy ρ σ} {stamp : Stamp} {root : Option ν}
    {es : List Exchange} {report : Report} (hf : Reward.StaysFinite a.learner.reward)
    (h : (a.cycle stamp root).Runs es (report, b)) : Cycled a report b := by
  obtain ⟨o, hr, hc⟩ := Plan.runs_map h
  let s := a.perception.analyze root
  let m : Moment := ⟨stamp, s, a.policy.decide s, o⟩
  have hn : m.action = .noOp → m.outcome = .success := by
    intro hn
    change (Action.execute a.perception m.action).Runs es o at hr
    rw [hn] at hr
    exact Action.execute_noOp hr
  have hs := a.conclude_cycled m rfl (Action.execute_sound hr) hn hf
  have hm : a.conclude m.stamp m.snapshot m.action m.outcome = (report, b) := hc
  rw [hm] at hs
  exact hs

end Agent

end ScreenAgent
