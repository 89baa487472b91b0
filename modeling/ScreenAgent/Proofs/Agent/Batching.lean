import Mathlib.Data.List.Forall2
import ScreenAgent.Archive.Sink
import ScreenAgent.Proofs.Agent.Run
import ScreenAgent.Proofs.Agent.Statistics

namespace ScreenAgent

namespace RulePolicy

/-- What a policy makes of a moment with a verdict, batches aside. -/
def learn (p : RulePolicy) (m : Moment) : Except Anomaly Float → RulePolicy
  | .ok reward => p.update (m.experience reward) reward
  | .error _ => p

namespace Agrees

variable {p q r : RulePolicy}

theorem refl (p : RulePolicy) : p.Agrees p := ⟨rfl, rfl, rfl⟩

theorem symm (h : p.Agrees q) : q.Agrees p :=
  ⟨h.goal_eq.symm, h.cursor_eq.symm, h.stats_eq.symm⟩

theorem trans (h : p.Agrees q) (h' : q.Agrees r) : p.Agrees r :=
  ⟨h.goal_eq.trans h'.goal_eq, h.cursor_eq.trans h'.cursor_eq, h.stats_eq.trans h'.stats_eq⟩

theorem refine (p : RulePolicy) (batch : List Experience) : (p.refine batch).Agrees p :=
  ⟨rfl, rfl, rfl⟩

theorem decide_eq (h : p.Agrees q) (s : Snapshot) : p.decide s = q.decide s := by
  simp only [decide, step?, h.goal_eq, h.cursor_eq]

theorem isComplete_eq (h : p.Agrees q) : p.isComplete = q.isComplete := by
  simp only [isComplete, h.goal_eq, h.cursor_eq]

theorem credit (h : p.Agrees q) (succeeded : Bool) (reward : Float) :
    (p.credit succeeded reward).Agrees (q.credit succeeded reward) := by
  refine ⟨h.goal_eq, ?_, ?_⟩
  · simp only [RulePolicy.credit, h.cursor_eq]
  · simp only [RulePolicy.credit, h.stats_eq, h.cursor_eq]

/-- Neither the name nor the time of an experience counts, nor the batches before it. -/
theorem update (h : p.Agrees q) (m : Moment) (stamp : Stamp) (reward : Float) :
    (p.update (m.experience reward) reward).Agrees
      (q.update (Moment.experience { m with stamp } reward) reward) := by
  have hc : p.Counts (m.experience reward) ↔
      q.Counts (Moment.experience { m with stamp } reward) := by
    unfold Counts
    rw [h.isComplete_eq, h.decide_eq]
    rfl
  rw [update_eq, update_eq]
  by_cases hm : p.Counts (m.experience reward)
  · rw [if_pos hm, if_pos (hc.mp hm)]
    exact h.credit m.outcome.succeeded reward
  · rw [if_neg hm, if_neg fun hm' => hm (hc.mpr hm')]
    exact h

theorem learn (h : p.Agrees q) (m : Moment) (stamp : Stamp) (verdict : Except Anomaly Float) :
    (p.learn m verdict).Agrees (q.learn { m with stamp } verdict) := by
  cases verdict with
  | ok reward => exact h.update m stamp reward
  | error anomaly => exact h

end Agrees

end RulePolicy

namespace Learner

variable {ρ σ : Type}

/-- What becomes of a moment, whatever is in the buffer and wherever it goes. -/
structure Concludes [Reward ρ] (score : Snapshot → Action → Outcome → Float) (l : Learner ρ σ) (m : Moment)
    (p : RulePolicy) (result : Record × Learner ρ σ × RulePolicy) : Prop where
  verdict_eq : result.1.verdict = m.verdict score
  policy_agrees : result.2.2.Agrees (p.learn m (m.verdict score))
  dropped_eq : result.2.1.dropped = l.dropped + if (m.verdict score).isOk then 0 else 1
  scores : Reward.Scores result.2.1.reward score

theorem take_concludes [Reward ρ] [Sink σ] (l : Learner ρ σ) (m : Moment) (p : RulePolicy)
    {score : Snapshot → Action → Outcome → Float} (hs : Reward.Scores l.reward score) :
    l.Concludes score m p (l.take m p) := by
  have hv := l.take_verdict m p hs
  have hn := l.take_scores m p hs
  obtain ⟨anomaly, calculator, he⟩ | ⟨reward, calculator, -, he⟩ | ⟨reward, calculator, -, he⟩ :=
    l.take_cases m p
  · rw [he] at hv hn ⊢
    exact ⟨hv, by rw [← hv]; exact .refl p, by rw [← hv]; rfl, hn⟩
  · rw [he] at hv hn ⊢
    exact ⟨hv, by rw [← hv]; exact .refl _, by rw [← hv]; rfl, hn⟩
  · rw [he] at hv hn ⊢
    exact ⟨hv, by rw [← hv]; exact .refine _ _, by rw [← hv]; rfl, hn⟩

end Learner

/-- Two reports of the same, one of which may tell of an optimization. -/
structure Report.Alike (r r' : Report) : Prop where
  cycle_eq : r.cycle = r'.cycle
  snapshot_eq : r.snapshot = r'.snapshot
  action_eq : r.action = r'.action
  outcome_eq : r.outcome = r'.outcome
  verdict_eq : r.record.verdict = r'.record.verdict
  complete_eq : r.policyComplete = r'.policyComplete

/-- Two agents that are as far, and have dropped as much; their buffers, their sinks and what their
policies know of batches may differ. -/
structure Agent.Alike {ρ σ σ' : Type} (a : Agent RulePolicy ρ σ) (b : Agent RulePolicy ρ σ') :
    Prop where
  perception_eq : a.perception = b.perception
  policy_agrees : a.policy.Agrees b.policy
  dropped_eq : a.learner.dropped = b.learner.dropped
  cycles_eq : a.cycles = b.cycles

/-- Two turns with reports of the same, after which the agents are as far. -/
structure Turn.Alike {ρ σ σ' : Type} (turn : Turn RulePolicy ρ σ) (turn' : Turn RulePolicy ρ σ') :
    Prop where
  report : turn.report.Alike turn'.report
  after : turn.after.Alike turn'.after

namespace Agent

variable {ρ σ σ' τ ν : Type} [Reward ρ] [Sink σ] [Sink σ'] [TreeView ν]
  {score : Snapshot → Action → Outcome → Float}

theorem conclude_alike {a : Agent RulePolicy ρ σ} {b : Agent RulePolicy ρ σ'} (h : a.Alike b)
    (ha : Reward.Scores a.learner.reward score) (hb : Reward.Scores b.learner.reward score)
    (m : Moment) (stamp : Stamp) :
    let next := a.conclude m.stamp m.snapshot m.action m.outcome
    let next' := b.conclude stamp m.snapshot m.action m.outcome
    next.1.Alike next'.1 ∧ next.2.Alike next'.2 ∧ Reward.Scores next.2.learner.reward score ∧
      Reward.Scores next'.2.learner.reward score := by
  intro next next'
  have hc := a.learner.take_concludes m a.policy ha
  have hc' := b.learner.take_concludes { m with stamp } b.policy hb
  have hv : Moment.verdict { m with stamp } score = m.verdict score := rfl
  -- each policy agrees with one that was told of no batch
  have hp : next.2.policy.Agrees next'.2.policy := by
    have hl := h.policy_agrees.learn m stamp (m.verdict score)
    rw [← hv] at hl
    exact hc.policy_agrees.trans (hl.trans hc'.policy_agrees.symm)
  refine ⟨⟨?_, rfl, rfl, rfl, ?_, hp.isComplete_eq⟩, ⟨h.perception_eq, hp, ?_, ?_⟩, hc.scores,
    hc'.scores⟩
  · exact congrArg (· + 1) h.cycles_eq
  · exact hc.verdict_eq.trans (hv.symm.trans hc'.verdict_eq.symm)
  · have hd := hc'.dropped_eq
    rw [hv, ← h.dropped_eq] at hd
    exact hc.dropped_eq.trans hd.symm
  · exact congrArg (· + 1) h.cycles_eq

/-- Two agents that are as far ask the same of a surface, and stay as far. -/
theorem attendAllOn_alike {a : Agent RulePolicy ρ σ} {b : Agent RulePolicy ρ σ'} (h : a.Alike b)
    (ha : Reward.Scores a.learner.reward score) (hb : Reward.Scores b.learner.reward score)
    (surface : Surface (StateM τ)) (stamps stamps' : Nat → Stamp) (roots : List (Option ν)) (t : τ) :
    let run := attendAllOn surface stamps a roots t
    let run' := attendAllOn surface stamps' b roots t
    run.2 = run'.2 ∧ List.Forall₂ Turn.Alike run.1.1 run'.1.1 := by
  induction roots generalizing a b t with
  | nil => exact ⟨rfl, .nil⟩
  | cons root roots ih =>
    -- both make the same plan; they differ in what they conclude from what comes of it
    let s := a.perception.analyze root
    let plan := (a.policy.decide s).execute a.perception
    have hplan : a.cycle (stamps a.cycles) root =
        plan.map (a.conclude (stamps a.cycles) s (a.policy.decide s)) := rfl
    have hplan' : b.cycle (stamps' b.cycles) root =
        plan.map (b.conclude (stamps' b.cycles) s (a.policy.decide s)) := by
      simp only [plan, s, h.perception_eq, h.policy_agrees.decide_eq]
      rfl
    rw [attendAllOn, attendAllOn, hplan, hplan', Plan.on_map, Plan.on_map]
    cases hon : plan.on surface t with
    | mk outcome t' =>
      cases outcome with
      | none => exact ⟨rfl, .nil⟩
      | some o =>
        obtain ⟨hr, hn, ha, hb⟩ := conclude_alike h ha hb
          ⟨stamps a.cycles, s, a.policy.decide s, o⟩ (stamps' b.cycles)
        obtain ⟨ht, hs⟩ := ih hn ha hb t'
        exact ⟨ht, .cons ⟨hr, hn⟩ hs⟩

/-- Two new agents with the same goal and calculator, on surfaces of one kind: with another capacity
and another sink, and other names and times for the experiences, the second asks for exactly what the
first asks for, and each of its cycles is reported alike and leaves it as far. -/
theorem unmoved_by_batches (config : Config) (capacity : Nat) (goal : Goal) (calculator : ρ)
    (hs : Reward.Scores calculator score) (sink : Option σ) (sink' : Option σ')
    (surface : Surface (StateM τ)) (stamps stamps' : Nat → Stamp) (roots : List (Option ν)) (t : τ) :
    let a := ofConfig config (RulePolicy.ofGoal goal) calculator sink
    let b := ofConfig { config with bufferCapacity := capacity } (RulePolicy.ofGoal goal) calculator
      sink'
    let run := attendAllOn surface.noting stamps a roots (t, [])
    let run' := attendAllOn surface.noting stamps' b roots (t, [])
    run.1 = attendAll surface stamps a roots t ∧ run'.1 = attendAll surface stamps' b roots t ∧
    run.2 = run'.2 ∧ List.Forall₂ Turn.Alike run.1.1 run'.1.1 ∧
    (surface.Answers → run.1.1.length = roots.length) := by
  intro a b run run'
  have hn := attendAllOn_noting surface stamps a roots t []
  have hn' := attendAllOn_noting surface stamps' b roots t []
  have hab : a.Alike b := ⟨rfl, .refl _, rfl, rfl⟩
  obtain ⟨ht, hr⟩ := attendAllOn_alike hab hs hs surface.noting stamps stamps' roots (t, [])
  refine ⟨hn, hn', ht, hr, fun hanswers => ?_⟩
  rw [hn]
  exact length_attendAll surface hanswers stamps a roots t

/-- An agent that never comes to an optimization and one that comes to it in every cycle, each time
with a sink that fails, ask for the same. -/
theorem unmoved_by_batches_failing :
    let goal : Goal := ⟨[⟨.byId "next", .click⟩, ⟨.byId "send", .click⟩]⟩
    let seen := (Node.ofClass "").withChildren [.button "next" "Next", .button "send" "Send"]
    let device : Device := { tree := some seen, faults := [("click", .rejected "busy")] }
    let roots := [some seen, none, some seen]
    let run := attendAllOn Device.surface.noting (fun _ => {})
      (ofConfig {} (RulePolicy.ofGoal goal) ShapedReward.mk (none : Option Archive)) roots
      (device, [])
    let run' := attendAllOn Device.surface.noting (fun _ => {})
      (ofConfig { bufferCapacity := 1 } (RulePolicy.ofGoal goal) ShapedReward.mk
        (some { entry := .directory : Archive })) roots (device, [])
    Reward.Scores ShapedReward.mk ShapedReward.score ∧ run.2 = run'.2 ∧
      List.Forall₂ Turn.Alike run.1.1 run'.1.1 ∧ run.2.2.length = 4 ∧ run.1.1.length = 3 ∧
      run.1.2.learner.runs = 0 ∧ run'.1.2.learner.runs = 3 := by
  intro goal seen device roots run run'
  have hs := ShapedReward.mk.scores
  obtain ⟨-, -, ht, hr, hl⟩ := unmoved_by_batches {} 1 goal ShapedReward.mk hs
    (none : Option Archive) (some { entry := .directory : Archive }) Device.surface (fun _ => {})
    (fun _ => {}) roots device
  exact ⟨hs, ht, hr, by decide +kernel, hl Device.surface_answers, by decide +kernel,
    by decide +kernel⟩

end Agent

end ScreenAgent
