import ScreenAgent.Agent.RulePolicy
import ScreenAgent.Agent.Execution
import ScreenAgent.Proofs.Screen.Reference

namespace ScreenAgent

def Step.actionOn (s : Step) (target : Ref) : Action :=
  match s.intent with
  | .click => .click target
  | .setText text => .setText target text

def Step.gesture (s : Step) (e : Element) : Gesture :=
  match s.intent with
  | .click => .click e
  | .setText text => .setText e text

namespace Step

theorem actionOn_ne_noOp (s : Step) (target : Ref) : s.actionOn target ≠ .noOp := by
  cases h : s.intent <;> simp [actionOn, h]

theorem target?_actionOn (s : Step) (target : Ref) : (s.actionOn target).target? = some target := by
  cases h : s.intent <;> simp [actionOn, h, Action.target?]

theorem execute_actionOn (s : Step) (target : Ref) (p : Perception) :
    (s.actionOn target).execute p = Action.performOn p target s.gesture := by
  have hg : s.gesture = fun e => s.gesture e := rfl
  rw [hg]
  cases h : s.intent <;> simp [actionOn, gesture, h, Action.execute]

end Step

namespace RulePolicy

theorem step?_eq_none (p : RulePolicy) : p.step? = none ↔ p.isComplete = true := by
  rw [step?, List.getElem?_eq_none_iff]
  exact decide_eq_true_iff.symm

/-- The policy does nothing if there is no element that the current step accepts, and acts on the
first such element if there is one. -/
theorem decide_cases (p : RulePolicy) (s : Snapshot) :
    (p.decide s = .noOp ∧
      ∀ step, p.step? = some step → ∀ e ∈ s.elements, step.accepts e = false) ∨
    ∃ step i e target, p.step? = some step ∧ s.elements.findIdx? step.accepts = some i ∧
      s.elements[i]? = some e ∧ s.resolve? target = some (i, e) ∧
      p.decide s = step.actionOn target := by
  cases hp : p.step? with
  | none => exact .inl ⟨by simp [decide, hp], by simp⟩
  | some step =>
    cases hi : s.elements.findIdx? step.accepts with
    | none =>
      refine .inl ⟨by simp [decide, hp, hi], ?_⟩
      rintro _ ⟨rfl⟩
      exact List.findIdx?_eq_none_iff.mp hi
    | some i =>
      obtain ⟨hl, -, -⟩ := List.findIdx?_eq_some_iff_getElem.mp hi
      have he : s.elements[i]? = some s.elements[i] := List.getElem?_eq_getElem hl
      obtain ⟨target, ht, hr⟩ := s.resolve?_refAt? i _ he
      refine .inr ⟨step, i, s.elements[i], target, rfl, hi, he, hr, ?_⟩
      simp only [decide, hp, hi, Option.bind_some, ht]
      rfl

theorem decide_refAt? {p : RulePolicy} {s : Snapshot} {step : Step} {i : Nat} {target : Ref}
    (hp : p.step? = some step) (hi : s.elements.findIdx? step.accepts = some i)
    (ht : s.refAt? i = some target) : p.decide s = step.actionOn target := by
  simp only [decide, hp, hi, Option.bind_some, ht]
  rfl

theorem decide_of_complete (p : RulePolicy) (h : p.isComplete = true) (s : Snapshot) :
    p.decide s = .noOp := by
  rw [decide, p.step?_eq_none.mpr h]

/-- The policy does nothing exactly if its goal is reached or the current step accepts nothing that is to
be seen. Otherwise it does what the step intends, with a reference to the first of the elements that the
step accepts, by which that very element is found again. -/
theorem decides_first (p : RulePolicy) (s : Snapshot) :
    (p.decide s = .noOp ↔ p.isComplete = true ∨
      ∃ step, p.step? = some step ∧ ∀ e ∈ s.elements, step.accepts e = false) ∧
    (p.decide s ≠ .noOp → ∃ step i e target, p.step? = some step ∧
      s.elements[i]? = some e ∧ step.accepts e = true ∧
      (∀ (j : Nat) d, j < i → s.elements[j]? = some d → step.accepts d = false) ∧
      s.refAt? i = some target ∧ s.resolve? target = some (i, e) ∧
      ((step.intent = .click ∧ p.decide s = .click target) ∨
        ∃ text, step.intent = .setText text ∧ p.decide s = .setText target text)) := by
  refine ⟨⟨fun h => ?_, ?_⟩, fun h => ?_⟩
  · cases hp : p.step? with
    | none => exact .inl (p.step?_eq_none.mp hp)
    | some step =>
      obtain ⟨-, hn⟩ | ⟨step', _, _, target, -, -, -, -, hd⟩ := p.decide_cases s
      · exact .inr ⟨step, rfl, hn step hp⟩
      · exact absurd (hd.symm.trans h) (step'.actionOn_ne_noOp target)
  · rintro (hc | ⟨step, hp, hn⟩)
    · exact p.decide_of_complete hc s
    · have hi : s.elements.findIdx? step.accepts = none := List.findIdx?_eq_none_iff.mpr hn
      simp [decide, hp, hi]
  · obtain ⟨hd, -⟩ | ⟨step, i, e, -, hp, hi, he, -, -⟩ := p.decide_cases s
    · exact absurd hd h
    · obtain ⟨target, ht, hr⟩ := s.resolve?_refAt? i e he
      obtain ⟨hlt, ha, hbefore⟩ := List.findIdx?_eq_some_iff_getElem.mp hi
      refine ⟨step, i, e, target, hp, he, ?_, fun j d hj hd => ?_, ht, hr, ?_⟩
      · obtain ⟨_, rfl⟩ := List.getElem?_eq_some_iff.mp he
        exact ha
      · obtain ⟨_, rfl⟩ := List.getElem?_eq_some_iff.mp hd
        exact Bool.eq_false_iff.mpr (hbefore j hj)
      · have hd := decide_refAt? hp hi ht
        cases hint : step.intent with
        | click => exact .inl ⟨rfl, by simpa [Step.actionOn, hint] using hd⟩
        | setText text => exact .inr ⟨text, rfl, by simpa [Step.actionOn, hint] using hd⟩

theorem resolve?_decide (p : RulePolicy) (s : Snapshot) (target : Ref)
    (h : (p.decide s).target? = some target) : (s.resolve? target).isSome = true := by
  obtain ⟨hd, -⟩ | ⟨step, i, e, target', -, -, -, hr, hd⟩ := p.decide_cases s
  · rw [hd] at h
    cases h
  · rw [hd, step.target?_actionOn] at h
    cases h
    rw [hr]
    rfl

theorem cursor_lt_of_decide (p : RulePolicy) (s : Snapshot) (h : p.decide s ≠ .noOp) :
    p.cursor < p.goal.size := by
  refine Nat.lt_of_not_le fun hc => h ?_
  have hs : p.step? = none := p.step?_eq_none.mpr (decide_eq_true hc)
  simp [decide, hs]

def credit (p : RulePolicy) (succeeded : Bool) (reward : Float) : RulePolicy :=
  { p with
    stats := p.stats.modify p.cursor fun s => s.count succeeded reward
    cursor := if succeeded then p.cursor + 1 else p.cursor }

/-- An experience with a decision of the policy counts for the current step, unless nothing was
done. -/
theorem update_decide (p : RulePolicy) (e : Experience) (reward : Float)
    (h : e.action = p.decide e.snapshot) :
    p.update e reward =
      if e.action = .noOp then p else p.credit e.outcome.succeeded reward := by
  by_cases hn : e.action = .noOp
  · simp [update, Action.isNoOp, hn]
  · have hc : p.isComplete = false :=
      decide_eq_false (Nat.not_le.mpr (p.cursor_lt_of_decide e.snapshot (h ▸ hn)))
    simp [update, Action.isNoOp, hn, hc, ← h, credit]

end RulePolicy

end ScreenAgent
