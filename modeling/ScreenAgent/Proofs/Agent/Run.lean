import ScreenAgent.Proofs.Agent.Cycle

namespace ScreenAgent

/-- One cycle of a run: the agent before it, what it reported, and the agent after it. -/
structure Turn (π ρ σ : Type) where
  before : Agent π ρ σ
  report : Report
  after : Agent π ρ σ

namespace Agent

variable {π ρ σ τ ν : Type} [Policy π] [Reward ρ] [Sink σ] [TreeView ν]

/-- One cycle for each event, up to one that comes to no end, and the agent after them. -/
def attendAll (surface : Surface (StateM τ)) (stamps : Nat → Stamp) (a : Agent π ρ σ) :
    List (Option ν) → τ → List (Turn π ρ σ) × Agent π ρ σ
  | [], _ => ([], a)
  | root :: roots, t =>
    match (a.cycle (stamps a.cycles) root).on surface t with
    | (none, _) => ([], a)
    | (some (report, b), t) =>
      let (turns, c) := attendAll surface stamps b roots t
      (⟨a, report, b⟩ :: turns, c)

/-- The same, with what has become of the surface. -/
def attendAllOn (surface : Surface (StateM τ)) (stamps : Nat → Stamp) (a : Agent π ρ σ) :
    List (Option ν) → τ → (List (Turn π ρ σ) × Agent π ρ σ) × τ
  | [], t => (([], a), t)
  | root :: roots, t =>
    match (a.cycle (stamps a.cycles) root).on surface t with
    | (none, t) => (([], a), t)
    | (some (report, b), t) =>
      let ((turns, c), t) := attendAllOn surface stamps b roots t
      ((⟨a, report, b⟩ :: turns, c), t)

/-- From one agent to another by turns, each of which is a cycle in which a surface may have said
anything. -/
inductive Leads (ν : Type) [TreeView ν] : Agent π ρ σ → List (Turn π ρ σ) → Agent π ρ σ → Prop
  | nil (a : Agent π ρ σ) : Leads ν a [] a
  | cons {a b c : Agent π ρ σ} {stamp : Stamp} {root : Option ν} {es : List Exchange}
      {report : Report} {turns : List (Turn π ρ σ)}
      (h : (a.cycle stamp root).Runs es (report, b)) (rest : Leads ν b turns c) :
      Leads ν a (⟨a, report, b⟩ :: turns) c

theorem attendAll_leads (surface : Surface (StateM τ)) (stamps : Nat → Stamp) (a : Agent π ρ σ)
    (roots : List (Option ν)) (t : τ) :
    Leads ν a (attendAll surface stamps a roots t).1 (attendAll surface stamps a roots t).2 := by
  induction roots generalizing a t with
  | nil => exact .nil a
  | cons root roots ih =>
    rw [attendAll]
    cases h : (a.cycle (stamps a.cycles) root).on surface t with
    | mk result t' =>
      cases result with
      | none => exact .nil a
      | some result =>
        obtain ⟨report, b⟩ := result
        obtain ⟨es, hr⟩ := Plan.runs_of_on surface _ t (report, b) (by rw [h])
        exact .cons hr (ih b t')

theorem length_attendAll (surface : Surface (StateM τ)) (hs : surface.Answers)
    (stamps : Nat → Stamp) (a : Agent π ρ σ) (roots : List (Option ν)) (t : τ) :
    (attendAll surface stamps a roots t).1.length = roots.length := by
  induction roots generalizing a t with
  | nil => rfl
  | cons root roots ih =>
    have hc := Plan.on_isSome surface hs (a.cycle (stamps a.cycles) root) t
    rw [attendAll]
    cases h : (a.cycle (stamps a.cycles) root).on surface t with
    | mk result t' =>
      cases result with
      | none => simp [h] at hc
      | some result => simpa using ih result.2 t'

theorem attendAllOn_noting (surface : Surface (StateM τ)) (stamps : Nat → Stamp)
    (a : Agent π ρ σ) (roots : List (Option ν)) (t : τ) (requests : List Request) :
    (attendAllOn surface.noting stamps a roots (t, requests)).1 =
      attendAll surface stamps a roots t := by
  induction roots generalizing a t requests with
  | nil => rfl
  | cons root roots ih =>
    obtain ⟨more, hn⟩ := Plan.on_noting surface (a.cycle (stamps a.cycles) root) t requests
    rw [attendAllOn, attendAll, hn]
    cases h : (a.cycle (stamps a.cycles) root).on surface t with
    | mk result t' =>
      cases result with
      | none => rfl
      | some result =>
        have hs := ih result.2 t' more
        simp only [hs]

/-- What every cycle keeps holds between any two cycles of a run. It may be about the turns so far. -/
theorem Leads.holds (Inv : List (Turn π ρ σ) → Agent π ρ σ → Prop)
    (step : ∀ past a stamp (root : Option ν) es report b, Inv past a →
      (a.cycle stamp root).Runs es (report, b) → Inv (past ++ [⟨a, report, b⟩]) b)
    {a c : Agent π ρ σ} {turns : List (Turn π ρ σ)} (h : Leads ν a turns c)
    (past : List (Turn π ρ σ)) (ha : Inv past a) :
    Inv (past ++ turns) c ∧ ∀ more turn, more ++ [turn] <+: turns →
      Inv (past ++ more) turn.before ∧ Inv (past ++ more ++ [turn]) turn.after ∧
      ∃ stamp es, ∃ root : Option ν,
        (turn.before.cycle stamp root).Runs es (turn.report, turn.after) := by
  induction h generalizing past with
  | nil a => simpa using ha
  | @cons a b c stamp root es report turns h rest ih =>
    have hb := step past a stamp root es report b ha h
    obtain ⟨hs, ht⟩ := ih _ hb
    refine ⟨by simpa using hs, fun more turn hm => ?_⟩
    cases more with
    | nil =>
      obtain ⟨rfl, -⟩ := List.cons_prefix_cons.mp hm
      exact ⟨by simpa using ha, by simpa using hb, stamp, es, root, h⟩
    | cons first more =>
      obtain ⟨rfl, hr⟩ := List.cons_prefix_cons.mp hm
      simpa using ht more turn hr

theorem Leads.keeps (Inv : List (Turn RulePolicy ρ σ) → Agent RulePolicy ρ σ → Prop)
    (step : ∀ past a report b, Inv past a → Cycled a report b → Inv (past ++ [⟨a, report, b⟩]) b)
    {a c : Agent RulePolicy ρ σ} {turns : List (Turn RulePolicy ρ σ)} (h : Leads ν a turns c)
    (hf : Reward.StaysFinite a.learner.reward) (past : List (Turn RulePolicy ρ σ))
    (ha : Inv past a) :
    Inv (past ++ turns) c ∧ ∀ more turn, more ++ [turn] <+: turns →
      Inv (past ++ more ++ [turn]) turn.after ∧ Cycled turn.before turn.report turn.after := by
  have hs := h.holds (fun past a => Inv past a ∧ Reward.StaysFinite a.learner.reward)
    (fun past a stamp root es report b hi hr => by
      have hc := cycle_cycled hi.2 hr
      exact ⟨step past a report b hi.1 hc, hc.staysFinite⟩) past ⟨ha, hf⟩
  refine ⟨hs.1.1, fun more turn hm => ?_⟩
  obtain ⟨hb, hn, stamp, es, root, hr⟩ := hs.2 more turn hm
  exact ⟨hn.1, cycle_cycled hb.2 hr⟩

end Agent

end ScreenAgent
