import ScreenAgent.Archive.Sink
import ScreenAgent.Proofs.Agent.Run
import ScreenAgent.Proofs.Screen.Preorder

namespace ScreenAgent

def Gesture.isTouch : Gesture → Bool
  | click _ => true
  | setText _ _ => true
  | scroll _ => false
  | wait _ => false

theorem Step.isTouch_gesture (s : Step) (e : Element) : (s.gesture e).isTouch = true := by
  cases h : s.intent <;> simp [gesture, h, Gesture.isTouch]

/-- A surface that shows a tree, and then grants whatever touch it is asked for. -/
structure Surface.Grants {τ : Type} (s : Surface (StateM τ)) (tree : Node) (t : τ) : Prop where
  look_eq : (s.look t).1 = .ok (some tree)
  act_eq : ∀ g, g.isTouch = true → (s.act g (s.look t).2).1 = .ok ()

/-- A surface that shows trees in turn, each of which has an element for the step at its place and
not too many nodes, and grants every touch. What comes next may depend on what was touched. -/
def Surface.Serves {τ : Type} (s : Surface (StateM τ)) (maxNodes : Nat) :
    List Step → List Node → τ → Prop
  | [], [], _ => True
  | step :: steps, tree :: trees, t =>
    tree.count ≤ maxNodes ∧ (∃ e ∈ tree.elements, step.accepts e = true) ∧ s.Grants tree t ∧
      ∀ e, tree.elements.find? step.accepts = some e →
        s.Serves maxNodes steps trees (s.act (step.gesture e) (s.look t).2).2
  | _, _, _ => False

namespace RulePolicy

/-- On a screen with elements that the current step accepts, the policy acts on the first one. -/
theorem decide_eq_actionOn (p : RulePolicy) (s : Snapshot) {step : Step} (hp : p.step? = some step)
    (ha : ∃ e ∈ s.elements, step.accepts e = true) :
    ∃ i e target, s.elements.find? step.accepts = some e ∧ s.resolve? target = some (i, e) ∧
      p.decide s = step.actionOn target := by
  obtain ⟨hd, hn⟩ | ⟨step', i, e, target, hs, hi, he, hr, hd⟩ := p.decide_cases s
  · obtain ⟨e, he, ha⟩ := ha
    rw [hn step hp e he] at ha
    cases ha
  · obtain rfl : step = step' := Option.some.inj (hp.symm.trans hs)
    have hf : s.elements.find? step.accepts = some e := by
      rw [List.find?_eq_bind_findIdx?_getElem?, hi]
      exact he
    exact ⟨i, e, target, hf, hr, hd⟩

end RulePolicy

/-- An action whose target is on the screen is one look and then one touch. -/
theorem Action.on_performOn {τ : Type} (s : Surface (StateM τ)) (p : Perception) (tree : Node)
    (target : Ref) (gesture : Element → Gesture) (t : τ) {i : Nat} {e : Element}
    (hs : s.Grants tree t) (hg : (gesture e).isTouch = true)
    (hr : (p.analyze (some tree)).resolve? target = some (i, e)) :
    (performOn p target gesture).on s t =
      (some .success, (s.act (gesture e) (s.look t).2).2) := by
  rw [on_performOn_look hs.look_eq, hr]
  dsimp only
  rw [perform, Plan.on_act, hs.act_eq _ hg]
  rfl

theorem Device.grants (d : Device) (tree : Node) (hf : d.faults = []) (ht : d.tree = some tree) :
    Device.surface.Grants tree d where
  look_eq := by simp [surface, ask, hf, ht]
  act_eq := by simp [surface, ask, hf]

theorem Surface.Grants.noting {τ : Type} {s : Surface (StateM τ)} {tree : Node} {t : τ}
    (h : s.Grants tree t) (requests : List Request) : s.noting.Grants tree (t, requests) :=
  ⟨h.look_eq, h.act_eq⟩

/-- A turn that started at a step of a goal and has brought the goal past it. -/
structure Turn.Passes {ρ σ : Type} (goal : Goal) (k : Nat) (turn : Turn RulePolicy ρ σ) : Prop where
  goal_eq : turn.before.policy.goal = goal
  cursor_eq : turn.before.policy.cursor = k
  cursor_lt : k < goal.size
  outcome_eq : turn.report.outcome = .success
  complete_iff : turn.report.policyComplete = true ↔ k + 1 = goal.size

namespace Cycled

variable {ρ σ : Type} [Reward ρ] {a b : Agent RulePolicy ρ σ} {report : Report}

theorem advances (h : Cycled a report b) (hn : report.action ≠ .noOp)
    (ho : report.outcome = .success) :
    b.policy.goal = a.policy.goal ∧ b.policy.cursor = a.policy.cursor + 1 := by
  obtain ⟨reward, hp⟩ := h.policy_agrees
  rw [if_neg hn, ho] at hp
  exact ⟨hp.goal_eq, hp.cursor_eq⟩

theorem passes (h : Cycled a report b) (hn : report.action ≠ .noOp)
    (ho : report.outcome = .success) :
    Turn.Passes a.policy.goal a.policy.cursor ⟨a, report, b⟩ := by
  have hl := a.policy.cursor_lt_of_decide report.snapshot (h.action_eq ▸ hn)
  obtain ⟨hg, hc⟩ := h.advances hn ho
  refine ⟨rfl, rfl, hl, ho, ?_⟩
  rw [h.complete_eq, RulePolicy.isComplete, hg, hc, decide_eq_true_iff]
  omega

end Cycled

namespace Agent

variable {ρ σ τ : Type} [Reward ρ] [Sink σ]

theorem on_cycle (a : Agent RulePolicy ρ σ) (stamp : Stamp) (tree : Node) {step : Step}
    (hp : a.policy.step? = some step) (hc : tree.count ≤ a.perception.maxNodes)
    (ha : ∃ e ∈ tree.elements, step.accepts e = true) :
    ∃ e report b, tree.elements.find? step.accepts = some e ∧ report.outcome = .success ∧
      report.action ≠ .noOp ∧ (Reward.StaysFinite a.learner.reward → Cycled a report b) ∧
      ∀ {τ : Type} (s : Surface (StateM τ)) (t : τ), s.Grants tree t →
        (a.cycle stamp (some tree)).on s t =
          (some (report, b), (s.act (step.gesture e) (s.look t).2).2) := by
  have hs := a.perception.analyze_of_count_le tree hc
  obtain ⟨i, e, target, hf, hr, hd⟩ := a.policy.decide_eq_actionOn ⟨tree.elements⟩ hp ha
  let m : Moment := ⟨stamp, ⟨tree.elements⟩, step.actionOn target, .success⟩
  refine ⟨e, _, _, hf, rfl, step.actionOn_ne_noOp target,
    a.conclude_cycled m hd.symm (.inl rfl) (fun _ => rfl), fun s t hg => ?_⟩
  have he : a.cycle stamp (some tree) =
      (Action.performOn a.perception target step.gesture).map
        (a.conclude stamp ⟨tree.elements⟩ (step.actionOn target)) := by
    rw [← step.execute_actionOn target a.perception, ← hd, ← hs]
    rfl
  rw [he, Plan.on_map, Action.on_performOn s a.perception tree target step.gesture t hg
    (step.isTouch_gesture e) (hs ▸ hr)]
  rfl

/-- A run on a surface that serves what is left of a goal is a turn with success for each step. -/
theorem attendAll_serves (surface : Surface (StateM τ)) (stamps : Nat → Stamp) (steps : List Step)
    (trees : List Node) (a : Agent RulePolicy ρ σ) (t : τ)
    (hg : surface.Serves a.perception.maxNodes steps trees t)
    (hs : a.policy.goal.steps.drop a.policy.cursor = steps)
    (hf : Reward.StaysFinite a.learner.reward) :
    let run := attendAll surface stamps a (trees.map some) t
    run.1.length = steps.length ∧ run.2.policy.isComplete = true ∧
    ∀ (k : Nat) turn, run.1[k]? = some turn → turn.Passes a.policy.goal (a.policy.cursor + k) := by
  induction steps generalizing trees a t with
  | nil =>
    cases trees with
    | nil =>
      have hc : a.policy.goal.size ≤ a.policy.cursor := List.drop_eq_nil_iff.mp hs
      exact ⟨rfl, decide_eq_true hc, by simp [attendAll]⟩
    | cons tree trees => exact hg.elim
  | cons step steps ih =>
    cases trees with
    | nil => exact hg.elim
    | cons tree trees =>
      obtain ⟨hc, ha, hr, hn⟩ := hg
      have hp : a.policy.step? = some step := by
        rw [RulePolicy.step?, ← List.head?_drop, hs]
        rfl
      obtain ⟨e, report, b, he, ho, hna, hb, hon⟩ := a.on_cycle (stamps a.cycles) tree hp hc ha
      have hb := hb hf
      obtain ⟨hk, hq⟩ := hb.advances hna ho
      have hd : b.policy.goal.steps.drop b.policy.cursor = steps := by
        rw [hk, hq, ← List.tail_drop, hs]
        rfl
      have hn := hn e he
      rw [← hb.perception_eq] at hn
      obtain ⟨hlen, hdone, hturns⟩ := ih trees b _ hn hd hb.staysFinite
      simp only [List.map_cons, attendAll, hon surface t hr]
      refine ⟨congrArg (· + 1) hlen, hdone, fun k turn ht => ?_⟩
      cases k with
      | zero =>
        obtain rfl : ⟨a, report, b⟩ = turn := by simpa using ht
        exact hb.passes hna ho
      | succ k =>
        have ht := hturns k turn (by simpa using ht)
        rw [hk, hq, Nat.add_right_comm] at ht
        exact ht

/-- On a surface that shows the tree that an agent is told of and grants a touch, a cycle is one
look and one touch of the first element in pre-order that the current step accepts, whatever
identifiers there are; it succeeds, and with a calculator that stays finite, as the default one
does, it is one step. So a new agent on a surface that serves a goal is at the end of it after one
cycle for each step, and not before. -/
theorem reaches_goal (surface : Surface (StateM τ)) (stamps : Nat → Stamp) :
    (∀ (a : Agent RulePolicy ρ σ) (stamp : Stamp) (step : Step) (tree : Node) (t : τ),
      a.policy.step? = some step → tree.count ≤ a.perception.maxNodes →
      (∃ e ∈ tree.elements, step.accepts e = true) → surface.Grants tree t →
      ∃ e report b, tree.elements.find? step.accepts = some e ∧ report.outcome = .success ∧
        (let t' := (surface.act (step.gesture e) (surface.look t).2).2
        (a.cycle stamp (some tree)).on surface t = (some (report, b), t') ∧
        ∀ requests, (a.cycle stamp (some tree)).on surface.noting (t, requests) =
          (some (report, b), t', requests ++ [.liveTree] ++ [.gesture (step.gesture e)])) ∧
        (Reward.StaysFinite a.learner.reward →
          b.policy.goal = a.policy.goal ∧ b.policy.cursor = a.policy.cursor + 1)) ∧
    (∀ calculator : ShapedReward, Reward.StaysFinite calculator) ∧
    ∀ (goal : Goal) (config : Config) (calculator : ρ) (sink : Option σ) (trees : List Node)
      (t : τ), Reward.StaysFinite calculator → surface.Serves config.maxNodes goal.steps trees t →
      let run := attendAll surface stamps (ofConfig config (.ofGoal goal) calculator sink)
        (trees.map some) t
      run.1.length = goal.size ∧ run.2.policy.isComplete = true ∧
      ∀ (k : Nat) turn, run.1[k]? = some turn →
        turn.Passes goal k ∧ turn.before.policy.isComplete = false := by
  refine ⟨fun a stamp step tree t hp hc ha hg => ?_, ShapedReward.staysFinite, ?_⟩
  · obtain ⟨e, report, b, he, ho, hn, hb, hon⟩ := a.on_cycle stamp tree hp hc ha
    refine ⟨e, report, b, he, ho, ⟨hon surface t hg, fun requests => ?_⟩, fun hf => ?_⟩
    · exact hon surface.noting (t, requests) (hg.noting requests)
    · exact (hb hf).advances hn ho
  · intro goal config calculator sink trees t hf hg
    obtain ⟨hl, hd, ht⟩ := attendAll_serves surface stamps goal.steps trees
      (ofConfig config (.ofGoal goal) calculator sink) t hg rfl hf
    refine ⟨hl, hd, fun k turn hk => ?_⟩
    have hp : turn.Passes goal (0 + k) := ht k turn hk
    rw [Nat.zero_add] at hp
    refine ⟨hp, ?_⟩
    rw [RulePolicy.isComplete, hp.goal_eq, hp.cursor_eq]
    exact decide_eq_false (Nat.not_le.mpr hp.cursor_lt)

/-- A text goes into the first field that can be edited, of those that share its identifier, and
then the button is clicked. -/
theorem reaches_goal_form :
    let goal : Goal := ⟨[⟨.byId "name", .setText "Ada"⟩, ⟨.byId "send", .click⟩]⟩
    let tree := (Node.ofClass "").withChildren
      [.button "name" "Name", .editText "name", (Node.editText "name").withText "?",
        .button "send" "Send"]
    let filled := Device.withText (some "name") "Ada" tree
    let device : Device := { tree := some tree }
    let a := ofConfig {} (RulePolicy.ofGoal goal) ShapedReward.mk (none : Option Archive)
    let run := attendAll Device.surface (fun _ => {}) a [some tree, some filled] device
    Device.surface.Serves 10000 goal.steps [tree, filled] device ∧
      ((a.cycle {} (some tree)).on Device.surface.noting (device, [])).2.2 =
        [.liveTree, .gesture (.setText (Perception.elementOf (Node.editText "name").own) "Ada")] ∧
      run.1.length = 2 ∧ run.2.policy.isComplete = true := by
  intro goal tree filled device a run
  have hf : tree.elements.find? (Step.accepts ⟨.byId "name", .setText "Ada"⟩) =
      some (Perception.elementOf (Node.editText "name").own) := by decide +kernel
  have hb : filled.elements.find? (Step.accepts ⟨.byId "send", .click⟩) =
      some (Perception.elementOf (Node.button "send" "Send").own) := by decide +kernel
  have ha : ∃ e ∈ tree.elements, Step.accepts ⟨.byId "name", .setText "Ada"⟩ e = true :=
    ⟨_, List.mem_of_find?_eq_some hf, List.find?_some hf⟩
  have hg : Device.surface.Grants tree device := device.grants tree rfl rfl
  have hs : Device.surface.Serves 10000 goal.steps [tree, filled] device := by
    refine ⟨by decide, ha, hg, fun e he => ?_⟩
    obtain rfl := Option.some.inj (hf.symm.trans he)
    refine ⟨by decide, ⟨_, List.mem_of_find?_eq_some hb, List.find?_some hb⟩, ?_,
      fun _ _ => trivial⟩
    exact Device.grants _ filled rfl rfl
  obtain ⟨hc, -, hr⟩ := reaches_goal (ρ := ShapedReward) (σ := Archive) Device.surface fun _ => {}
  obtain ⟨e, report, b, he, -, ⟨-, hn⟩, -⟩ := hc a {} _ tree device rfl (by decide) ha hg
  obtain ⟨hl, hd, -⟩ := hr goal {} {} none [tree, filled] device (ShapedReward.staysFinite _) hs
  obtain rfl := Option.some.inj (hf.symm.trans he)
  exact ⟨hs, congrArg (fun n => n.2.2) (hn []), hl, hd⟩

end Agent

end ScreenAgent
