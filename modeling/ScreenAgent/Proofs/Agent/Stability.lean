import ScreenAgent.Proofs.Agent.Execution
import ScreenAgent.Proofs.Screen.Reference

namespace ScreenAgent

/-- The interactive nodes of a tree that carry an identifier, in pre-order. -/
def Node.bearers (n : Node) (id : String) : List Element :=
  n.elements.filter fun e => e.identifier == some id

theorem Perception.map_resolve?_byId (p : Perception) {n : Node} (hc : n.count ≤ p.maxNodes)
    (id : String) (nth : Nat) :
    ((p.analyze (some n)).resolve? (.byId id nth)).map Prod.snd = (n.bearers id)[nth]? := by
  rw [p.analyze_of_count_le n hc]
  exact Snapshot.map_resolve?_byId ⟨n.elements⟩ id nth

namespace Action

/-- If two trees have the same elements with an identifier, a reference by it points at the same element
in both, or at none. An action on it then makes the same gesture on either, or is stale on both, be they
shown by the same surface or by different ones. -/
theorem unmoved_by_neighbours (p : Perception) (id : String) (nth : Nat) {tree tree' : Node}
    (hc : tree.count ≤ p.maxNodes) (hc' : tree'.count ≤ p.maxNodes)
    (hb : tree.bearers id = tree'.bearers id) :
    let target := Ref.byId id nth
    let found (n : Node) := ((p.analyze (some n)).resolve? target).map Prod.snd
    found tree = found tree' ∧
    ∀ a : Action, a.target? = some target → ∃ gesture, a.touch? = some gesture ∧
      ∀ {τ τ' : Type} (s : Surface (StateM τ)) (s' : Surface (StateM τ')) (t : τ) (t' : τ'),
        (s.look t).1 = .ok (some tree) → (s'.look t').1 = .ok (some tree') →
        let run := (a.execute p).on s.noting (t, [])
        let run' := (a.execute p).on s'.noting (t', [])
        (∃ e, found tree = some e ∧ run.2.2 = [.liveTree, .gesture (gesture e)] ∧
          run'.2.2 = [.liveTree, .gesture (gesture e)]) ∨
        (found tree = none ∧ run.2.2 = [.liveTree] ∧ run'.2.2 = [.liveTree] ∧
          run.1 = some (.stale (target.display ++ " no longer present")) ∧ run'.1 = run.1) := by
  intro target found
  have hf : found tree = found tree' := by
    have hl : found tree = (tree.bearers id)[nth]? := p.map_resolve?_byId hc id nth
    have hr : found tree' = (tree'.bearers id)[nth]? := p.map_resolve?_byId hc' id nth
    rw [hl, hr, hb]
  refine ⟨hf, fun a ha => ?_⟩
  obtain ⟨gesture, hg, he⟩ := execute_of_target? ha p
  refine ⟨gesture, hg, ?_⟩
  intro τ τ' s s' t t' hl hl' run run'
  simp only [run, run', he]
  cases h : found tree with
  | some e =>
    obtain ⟨⟨i, _⟩, hr, rfl⟩ := Option.map_eq_some_iff.mp h
    obtain ⟨⟨i', _⟩, hr', rfl⟩ := Option.map_eq_some_iff.mp (hf.symm.trans h)
    exact .inl ⟨_, rfl, requests_performOn_of_some gesture hl hr,
      requests_performOn_of_some gesture hl' hr'⟩
  | none =>
    have hr := Option.map_eq_none_iff.mp h
    have hr' := Option.map_eq_none_iff.mp (hf.symm.trans h)
    rw [on_performOn_of_none gesture hl hr, on_performOn_of_none gesture hl' hr']
    exact .inr ⟨rfl, rfl, rfl, rfl, rfl⟩

/-- The second row is clicked, although a headline has gone, an advertisement has come with a row's
text, and the rows have been put into a list of their own. -/
theorem unmoved_by_neighbours_rows :
    let rows : List Node := [.button "row" "A", .button "row" "B"]
    let tree := (Node.ofClass "").withChildren (.ofClass "Headline" :: rows)
    let tree' := (Node.ofClass "").withChildren
      [.button "ad" "B", (Node.ofClass "List").withChildren rows, (Node.ofClass "").asClickable]
    let found := Perception.elementOf (Node.button "row" "B").own
    let requests (n : Node) := (((Action.click (.byId "row" 1)).execute {}).on Device.surface.noting
      ({ tree := some n }, [])).2.2
    (tree.count ≤ 10000 ∧ tree'.count ≤ 10000 ∧ tree.bearers "row" = tree'.bearers "row") ∧
      tree.elements ≠ tree'.elements ∧ requests tree = [.liveTree, .gesture (.click found)] ∧
      requests tree' = requests tree := by
  intro rows tree tree' found requests
  have hc : tree.count ≤ 10000 := by decide
  have hc' : tree'.count ≤ 10000 := by decide
  have hb : tree.bearers "row" = tree'.bearers "row" := by decide +kernel
  have hfound : tree.bearers "row" = [Perception.elementOf (Node.button "row" "A").own, found] := by
    decide +kernel
  obtain ⟨-, hact⟩ := unmoved_by_neighbours {} "row" 1 hc hc' hb
  obtain ⟨gesture, hg, hrun⟩ := hact (.click (.byId "row" 1)) rfl
  obtain rfl : Gesture.click = gesture := Option.some.inj hg
  have hf := Perception.map_resolve?_byId {} hc "row" 1
  rw [hfound] at hf
  obtain ⟨e, he, hr, hr'⟩ | ⟨hn, -⟩ := hrun Device.surface Device.surface { tree := some tree }
    { tree := some tree' } rfl rfl
  · obtain rfl : found = e := Option.some.inj (hf.symm.trans he)
    exact ⟨⟨hc, hc', hb⟩, by decide +kernel, hr, hr'.trans hr.symm⟩
  · cases hf.symm.trans hn

end Action

end ScreenAgent
