import ScreenAgent.Proofs.Agent.Batching
import ScreenAgent.Proofs.Learning.Dropping

namespace ScreenAgent

/-- A turn in which a policy did nothing, since nothing is left to do. Its experience is sound, so
that only a reward that is not finite keeps it from being recorded. -/
structure Turn.Rests {ρ σ : Type} (p : RulePolicy) (turn : Turn RulePolicy ρ σ) : Prop where
  action_eq : turn.report.action = .noOp
  outcome_eq : turn.report.outcome = .success
  complete_eq : turn.report.policyComplete = true
  agrees : turn.after.policy.Agrees p
  dropped : ∀ anomaly, turn.report.record = .dropped anomaly →
    ∃ reward, anomaly = .nonFiniteReward reward ∧ reward.isFinite = false

/-- That nothing was done in some cycles, the first of which has a number. -/
def idleMoments {ν : Type} [TreeView ν] (p : Perception) (stamps : Nat → Stamp) :
    Nat → List (Option ν) → List Moment
  | _, [] => []
  | k, root :: roots => ⟨stamps k, p.analyze root, .noOp, .success⟩ :: idleMoments p stamps (k + 1) roots

theorem length_idleMoments {ν : Type} [TreeView ν] (p : Perception) (stamps : Nat → Stamp) (k : Nat)
    (roots : List (Option ν)) : (idleMoments p stamps k roots).length = roots.length := by
  induction roots generalizing k with
  | nil => rfl
  | cons root roots ih => exact congrArg (· + 1) (ih (k + 1))

namespace RulePolicy

theorem update_noOp (p : RulePolicy) (e : Experience) (reward : Float) (h : e.action = .noOp) :
    p.update e reward = p := by
  rw [update_eq, if_neg]
  exact fun hc => hc.2.1 h

end RulePolicy

namespace Learner

variable {ρ σ : Type} [Reward ρ] [Sink σ]

theorem take_noOp_agrees (l : Learner ρ σ) (m : Moment) (p : RulePolicy) (h : m.action = .noOp) :
    (l.take m p).2.2.Agrees p := by
  have hu (reward : Float) : Policy.update p (m.experience reward) reward = p :=
    p.update_noOp _ reward h
  obtain ⟨_, _, he⟩ | ⟨reward, _, -, he⟩ | ⟨reward, _, -, he⟩ := l.take_cases m p
  · rw [he]
    exact .refl p
  · rw [he, hu reward]
    exact .refl p
  · rw [he, hu reward]
    exact .refine p _

/-- A success in doing nothing is dropped only for its reward. -/
theorem take_idle_dropped (l : Learner ρ σ) (m : Moment) (p : RulePolicy) (ha : m.action = .noOp)
    (ho : m.outcome = .success) {anomaly : Anomaly} (h : (l.take m p).1 = .dropped anomaly) :
    ∃ reward, anomaly = .nonFiniteReward reward ∧ reward.isFinite = false := by
  have hj := l.take_judges m p
  cases anomaly with
  | unknownTarget target =>
    have hu := ((hj.unknown_iff target).mp h).1
    rw [ha] at hu
    cases hu
  | inconsistentOutcome =>
    have hi := (hj.inconsistent_iff.mp h).2.2
    rw [ho] at hi
    exact absurd rfl hi
  | nonFiniteReward reward =>
    exact ⟨reward, rfl, (isFinite_eq_false_iff reward).mpr ((hj.nonFinite_iff reward).mp h).2.2⟩

end Learner

namespace Agent

variable {ρ σ τ ν : Type} [Reward ρ] [Sink σ] [TreeView ν]

theorem cycle_of_complete (a : Agent RulePolicy ρ σ) (hc : a.policy.isComplete = true)
    (stamp : Stamp) (root : Option ν) :
    a.cycle stamp root =
      .done (a.conclude stamp (a.perception.analyze root) .noOp .success) := by
  have hd : Policy.decide a.policy (a.perception.analyze root) = .noOp :=
    a.policy.decide_of_complete hc _
  rw [cycle, hd]
  rfl

theorem conclude_rests (a : Agent RulePolicy ρ σ) (hc : a.policy.isComplete = true) (stamp : Stamp)
    (s : Snapshot) :
    let next := a.conclude stamp s .noOp .success
    Turn.Rests a.policy ⟨a, next.1, next.2⟩ := by
  intro next
  let m : Moment := ⟨stamp, s, .noOp, .success⟩
  have hp : next.2.policy.Agrees a.policy := a.learner.take_noOp_agrees m a.policy rfl
  exact ⟨rfl, rfl, hp.isComplete_eq.trans hc, hp,
    fun _ h => a.learner.take_idle_dropped m a.policy rfl rfl h⟩

theorem policyComplete_of_runs {a b : Agent RulePolicy ρ σ} {stamp : Stamp} {root : Option ν}
    {es : List Exchange} {report : Report} (h : (a.cycle stamp root).Runs es (report, b)) :
    report.policyComplete = b.policy.isComplete := by
  obtain ⟨o, -, ho⟩ := Plan.runs_map h
  obtain ⟨rfl, rfl⟩ := Prod.mk.inj ho
  rfl

/-- If the policy was complete before a run, or a turn of the run reported that it was, then it is
complete after the run. -/
theorem complete_of_leads {start a : Agent RulePolicy ρ σ} {turns : List (Turn RulePolicy ρ σ)}
    (h : Leads ν start turns a)
    (hc : start.policy.isComplete = true ∨ ∃ turn ∈ turns, turn.report.policyComplete = true) :
    a.policy.isComplete = true := by
  induction h with
  | nil a => simpa using hc
  | @cons a b c stamp root es report turns hr rest ih =>
    refine ih ?_
    have hb := policyComplete_of_runs hr
    obtain hc | ⟨turn, ht, hc⟩ := hc
    -- a complete policy rests in the first turn, and the rest of the run starts with it complete
    · rw [a.cycle_of_complete hc] at hr
      cases hr
      have hr := a.conclude_rests hc stamp (a.perception.analyze root)
      exact .inl (hb.symm.trans hr.complete_eq)
    · obtain rfl | ht := List.mem_cons.mp ht
      · exact .inl (hb.symm.trans hc)
      · exact .inr ⟨turn, ht, hc⟩

/-- An agent whose goal is reached leaves the surface alone, and its learner takes in what it would
take in by itself. -/
theorem attendAllOn_of_complete (surface : Surface (StateM τ)) (stamps : Nat → Stamp)
    (a : Agent RulePolicy ρ σ) (hc : a.policy.isComplete = true) (roots : List (Option ν)) (t : τ) :
    let run := attendAllOn surface stamps a roots t
    let course := a.learner.takeAll a.policy (idleMoments a.perception stamps a.cycles roots)
    run.2 = t ∧ run.1.1.length = roots.length ∧
    (∀ turn ∈ run.1.1, turn.Rests a.policy) ∧
    run.1.1.map (fun turn => turn.report.record) = course.takings.map Taken.record ∧
    run.1.2.learner = course.learner ∧ run.1.2.policy = course.policy := by
  induction roots generalizing a t with
  | nil => exact ⟨rfl, rfl, by simp [attendAllOn], rfl, rfl, rfl⟩
  | cons root roots ih =>
    let next := a.conclude (stamps a.cycles) (a.perception.analyze root) .noOp .success
    have hr : Turn.Rests a.policy ⟨a, next.1, next.2⟩ := a.conclude_rests hc _ _
    have hn : next.2.policy.isComplete = true := hr.agrees.isComplete_eq.trans hc
    obtain ⟨ht, hl, hrests, hrecords, hlearner, hpolicy⟩ := ih next.2 hn t
    have hrun : attendAllOn surface stamps a (root :: roots) t =
        let run := attendAllOn surface stamps next.2 roots t
        ((⟨a, next.1, next.2⟩ :: run.1.1, run.1.2), run.2) := by
      rw [attendAllOn, a.cycle_of_complete hc]
      rfl
    rw [hrun]
    refine ⟨ht, congrArg (· + 1) hl, fun turn hm => ?_, congrArg (next.1.record :: ·) hrecords,
      hlearner, hpolicy⟩
    obtain rfl | hm := List.mem_cons.mp hm
    · exact hr
    · have hs := hrests turn hm
      exact ⟨hs.action_eq, hs.outcome_eq, hs.complete_eq, hs.agrees.trans hr.agrees, hs.dropped⟩

/-- Once a turn of a run has reported that the policy is complete, or if it was so from the start:
whatever the run goes on with and whatever surface it goes on with, nothing is asked of the surface,
every further turn does nothing, succeeds, reports the same again and leaves the policy where it is,
and the learner goes on as it would by itself, buffer and batches in step with the calls. -/
theorem stays_complete {start a : Agent RulePolicy ρ σ} {turns : List (Turn RulePolicy ρ σ)}
    (h : Leads ν start turns a)
    (hc : start.policy.isComplete = true ∨ ∃ turn ∈ turns, turn.report.policyComplete = true)
    (surface : Surface (StateM τ)) (stamps : Nat → Stamp) (roots : List (Option ν)) (t : τ)
    (requests : List Request) :
    let run := attendAllOn surface.noting stamps a roots (t, requests)
    let course := a.learner.takeAll a.policy (idleMoments a.perception stamps a.cycles roots)
    run.1 = attendAll surface stamps a roots t ∧ run.2 = (t, requests) ∧
    run.1.1.length = roots.length ∧
    (∀ turn ∈ run.1.1, turn.Rests a.policy) ∧
    run.1.1.map (fun turn => turn.report.record) = course.takings.map Taken.record ∧
    run.1.2.learner = course.learner ∧ run.1.2.policy = course.policy ∧
    ∀ calls, a.learner.Fits calls → run.1.2.learner.Fits (calls + roots.length) := by
  intro run course
  obtain ⟨ht, hl, hrests, hrecords, hlearner, hpolicy⟩ :=
    attendAllOn_of_complete surface.noting stamps a (complete_of_leads h hc) roots (t, requests)
  refine ⟨attendAllOn_noting surface stamps a roots t requests, ht, hl, hrests, hrecords, hlearner,
    hpolicy, fun calls hf => ?_⟩
  have hm : (idleMoments a.perception stamps a.cycles roots).length = roots.length :=
    length_idleMoments ..
  rw [hlearner, ← hm]
  exact hf.takeAll a.policy _

/-- A button is clicked, which is all there was to do; then the device is gone. Three more events make
no request of it, but the second batch is handed on. -/
theorem stays_complete_clicked :
    let goal : Goal := ⟨[⟨.byId "send", .click⟩]⟩
    let seen : Node := .button "send" "Send"
    let gone : Device := { faults := [("live_tree", .unavailable "gone")] }
    let start := ofConfig { bufferCapacity := 2 } (RulePolicy.ofGoal goal) ShapedReward.mk
      (none : Option Archive)
    let first := attendAll Device.surface (fun _ => {}) start [some seen] { tree := some seen }
    let run := attendAllOn Device.surface.noting (fun _ => {}) first.2 [some seen, none, some seen]
      (gone, [])
    start.policy.isComplete = false ∧ (∃ turn ∈ first.1, turn.report.policyComplete = true) ∧
      run.2 = (gone, []) ∧ (∀ turn ∈ run.1.1, turn.Rests first.2.policy) ∧ run.1.1.length = 3 ∧
      first.2.learner.Fits 1 ∧ run.1.2.learner.Fits 4 ∧ run.1.2.learner.runs = 2 := by
  intro goal seen gone start first run
  have hl : Leads Node start first.1 first.2 :=
    attendAll_leads Device.surface (fun _ => {}) start [some seen] { tree := some seen }
  have hc : ∃ turn ∈ first.1, turn.report.policyComplete = true :=
    ⟨first.1.get ⟨0, by decide +kernel⟩, List.get_mem .., by decide +kernel⟩
  have hf : first.2.learner.Fits 1 := ⟨by decide +kernel, by decide +kernel⟩
  obtain ⟨-, ht, hlen, hr, -, -, -, hfits⟩ := stays_complete hl (.inr hc) Device.surface
    (fun _ => {}) [some seen, none, some seen] gone []
  have he : attendAllOn Device.surface.noting (fun _ => {}) first.2 [some seen, none, some seen]
      (gone, []) = run := rfl
  rw [he] at ht hlen hr hfits
  have hstart : start.policy.isComplete = false := by decide +kernel
  have hruns : run.1.2.learner.runs = 2 := by decide +kernel
  have hlast : run.1.2.learner.Fits 4 := hfits 1 hf
  exact ⟨hstart, hc, ht, hr, hlen, hf, hlast, hruns⟩

end Agent

end ScreenAgent
