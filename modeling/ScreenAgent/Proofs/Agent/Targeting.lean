import ScreenAgent.Archive.Sink
import ScreenAgent.Proofs.Agent.Cycle

namespace ScreenAgent

theorem Target.isMatch_congr (target : Target) {d e : Element} (hi : e.identifier = d.identifier)
    (ht : e.text = d.text) : target.isMatch e = target.isMatch d := by
  cases target <;> simp only [isMatch, Element.hasIdentifier, hi, ht]

theorem Target.isMatch_byId_congr (id : String) {d e : Element}
    (hi : e.identifier = d.identifier) :
    (Target.byId id).isMatch e = (Target.byId id).isMatch d := by
  simp only [isMatch, Element.hasIdentifier, hi]

/-- If nothing of an accepted element has changed that the target looks at, all that counts is what can
be done with it. -/
theorem Step.accepts_eq_isCapable {s : Step} {d e : Element} (hd : s.accepts d = true)
    (hi : e.identifier = d.identifier) (ht : e.text = d.text ∨ ∃ id, s.target = .byId id) :
    s.accepts e = s.isCapable e := by
  have hm : s.target.isMatch d = true := by
    rw [accepts, Bool.and_eq_true] at hd
    exact hd.2
  have he : s.target.isMatch e = true := by
    obtain ht | ⟨id, hs⟩ := ht
    · rw [s.target.isMatch_congr hi ht, hm]
    · rw [hs] at hm ⊢
      rw [Target.isMatch_byId_congr id hi, hm]
  rw [accepts, he, Bool.and_true]

namespace Action

variable {τ : Type} {surface : Surface (StateM τ)} {t : τ}

/-- Before a gesture is made on an element, it is found on the screen as it is now. -/
theorem requests_performOn {p : Perception} {target : Ref} {gesture : Element → Gesture}
    {g : Gesture}
    (h : .gesture g ∈ ((performOn p target gesture).on surface.noting (t, [])).2.2) :
    ∃ live j e, (surface.look t).1 = .ok live ∧
      (p.analyze live).resolve? target = some (j, e) ∧ g = gesture e ∧
      ((performOn p target gesture).on surface.noting (t, [])).2.2 = [.liveTree, .gesture g] := by
  have hl : (surface.noting.look (t, [])).1 = (surface.look t).1 := rfl
  cases ha : (surface.look t).1 with
  | fault f =>
    rw [performOn, Plan.on_look, hl, ha] at h
    simp [Answer.toExcept?, Surface.noting] at h
  | overflow =>
    rw [performOn, Plan.on_look, hl, ha] at h
    simp [Answer.toExcept?, Surface.noting] at h
  | ok live =>
    cases hr : (p.analyze live).resolve? target with
    | none =>
      rw [on_performOn_of_none gesture ha hr] at h
      simp at h
    | some found =>
      obtain ⟨j, e⟩ := found
      have hn := requests_performOn_of_some gesture ha hr
      rw [hn] at h
      have hg : g = gesture e := by simpa using h
      exact ⟨live, j, e, rfl, hr, hg, by rw [hn, hg]⟩

end Action

namespace Agent

variable {ρ σ τ ν : Type} [Reward ρ] [Sink σ] [TreeView ν]

/-- Whatever a surface shows, a gesture of a cycle is the one of the current step, and it is made on
the element in the place of the first one of the event that the step accepts. The step accepts that
element too if it is still capable and still reads as it did, or goes by the identifier that the
step names. -/
theorem touches_in_place (a : Agent RulePolicy ρ σ) (stamp : Stamp) (root : Option ν)
    (surface : Surface (StateM τ)) (t : τ) (g : Gesture)
    (h : .gesture g ∈ ((a.cycle stamp root).on surface.noting (t, [])).2.2) :
    let seen := a.perception.analyze root
    ∃ step i d live j e, a.policy.step? = some step ∧
      (seen.elements.findIdx? step.accepts = some i ∧ seen.elements[i]? = some d ∧
        step.accepts d = true) ∧
      (surface.look t).1 = .ok live ∧ (a.perception.analyze live).elements[j]? = some e ∧
      seen.InPlaceOf i d (a.perception.analyze live) j e ∧ g = step.gesture e ∧
      ((a.cycle stamp root).on surface.noting (t, [])).2.2 = [.liveTree, .gesture g] ∧
      (e.identifier = d.identifier → (e.text = d.text ∨ ∃ id, step.target = .byId id) →
        step.accepts e = step.isCapable e) ∧
      (a.perception.analyze live = seen → step.accepts e = true) := by
  intro seen
  have hc : ((a.cycle stamp root).on surface.noting (t, [])).2.2 =
      (((a.policy.decide seen).execute a.perception).on surface.noting (t, [])).2.2 := by
    rw [cycle, Plan.on_map]
    rfl
  rw [hc] at h ⊢
  obtain ⟨hn, -⟩ | ⟨step, i, d, -, hp, hi, hd, -, -⟩ := a.policy.decide_cases seen
  · rw [hn] at h
    simp [Action.execute] at h
  · -- The reference is made on the event and looked up on what the surface shows.
    obtain ⟨target, ht, hself⟩ := seen.resolve?_refAt? i d hd
    rw [RulePolicy.decide_refAt? hp hi ht, step.execute_actionOn] at h ⊢
    obtain ⟨live, j, e, hl, hr, hg, hreq⟩ := Action.requests_performOn h
    obtain ⟨he, hplace⟩ := (Snapshot.resolve?_iff_inPlaceOf hd ht).mp hr
    have hacc : step.accepts d = true := by
      obtain ⟨hlt, ha, -⟩ := List.findIdx?_eq_some_iff_getElem.mp hi
      rw [List.getElem?_eq_getElem hlt] at hd
      rwa [← Option.some.inj hd]
    refine ⟨step, i, d, live, j, e, hp, ⟨hi, hd, hacc⟩, hl, he, hplace, hg, hreq,
      Step.accepts_eq_isCapable hacc, fun hsame => ?_⟩
    rw [hsame, hself] at hr
    obtain ⟨rfl, rfl⟩ := Prod.mk.inj (Option.some.inj hr)
    exact hacc

/-- The second row with the identifier is clicked, although another element has come before it. -/
theorem touches_in_place_row :
    let goal : Goal := ⟨[⟨.byText "B", .click⟩]⟩
    let a := ofConfig {} (RulePolicy.ofGoal goal) ShapedReward.mk (none : Option Archive)
    let seen := (Node.ofClass "").withChildren [.button "row" "A", .button "row" "B"]
    let live := (Node.ofClass "").withChildren
      [.button "row" "C", .button "ad" "New", .button "row" "B"]
    let g := Gesture.click (Perception.elementOf (Node.button "row" "B").own)
    let device : Device := { tree := some live }
    let requests := ((a.cycle {} (some seen)).on Device.surface.noting (device, [])).2.2
    .gesture g ∈ requests ∧ requests = [.liveTree, .gesture g] ∧ ∃ i d j e,
      (a.perception.analyze (some seen)).InPlaceOf i d (a.perception.analyze (some live)) j e ∧
        g = .click e := by
  intro goal a seen live g device requests
  have h : .gesture g ∈ requests := by decide +kernel
  obtain ⟨step, i, d, live', j, e, hp, -, hl, -, hplace, hg, hreq, -⟩ :=
    touches_in_place a {} (some seen) Device.surface device g h
  obtain rfl : (⟨.byText "B", .click⟩ : Step) = step := Option.some.inj hp
  obtain rfl : some live = live' := Answer.ok.inj hl
  exact ⟨h, hreq, i, d, j, e, hplace, hg⟩

/-- A step may come to touch what it does not accept: the button is gone, and a field that has its
identifier is clicked, although it can not be clicked. -/
theorem touches_unaccepted :
    ¬ ∀ (goal : Goal) (seen live : Node) (step : Step) (e : Element),
      let a := ofConfig {} (RulePolicy.ofGoal goal) ShapedReward.mk (none : Option Archive)
      a.policy.step? = some step →
      .gesture (step.gesture e) ∈
        ((a.cycle {} (some seen)).on Device.surface.noting ({ tree := some live }, [])).2.2 →
      step.accepts e = true := by
  intro h
  have ha := h ⟨[⟨.byId "go", .click⟩]⟩ (.button "go" "Go") ((Node.editText "go").withText "Go")
    ⟨.byId "go", .click⟩ (Perception.elementOf ((Node.editText "go").withText "Go").own) rfl
    (by decide +kernel)
  exact absurd ha (by decide +kernel)

end Agent

end ScreenAgent
