import ScreenAgent.Agent.Device

namespace ScreenAgent

/-- One exchange with a surface: what it was asked for, and what it said to that. -/
inductive Exchange
  | look (answer : Except Fault (Option Node))
  | act (gesture : Gesture) (answer : Except Fault Unit)

def Exchange.fault? : Exchange → Option Fault
  | look (.error fault) => some fault
  | act _ (.error fault) => some fault
  | _ => none

namespace Plan

variable {α β τ : Type}

inductive Runs : Plan α → List Exchange → α → Prop
  | done (a : α) : Runs (.done a) [] a
  | look {next : Except Fault (Option Node) → Plan α} (r : Except Fault (Option Node))
      {es : List Exchange} {a : α} (h : Runs (next r) es a) : Runs (.look next) (.look r :: es) a
  | act {g : Gesture} {next : Except Fault Unit → Plan α} (r : Except Fault Unit)
      {es : List Exchange} {a : α} (h : Runs (next r) es a) : Runs (.act g next) (.act g r :: es) a

@[simp] theorem runs_done_iff {a b : α} {es : List Exchange} :
    (Plan.done a).Runs es b ↔ es = [] ∧ b = a := by
  constructor
  · intro h
    cases h
    exact ⟨rfl, rfl⟩
  · rintro ⟨rfl, rfl⟩
    exact .done b

@[simp] theorem runs_look_iff {next : Except Fault (Option Node) → Plan α} {es : List Exchange}
    {a : α} :
    (Plan.look next).Runs es a ↔ ∃ r rest, es = .look r :: rest ∧ (next r).Runs rest a := by
  constructor
  · intro h
    cases h with
    | look r h => exact ⟨r, _, rfl, h⟩
  · rintro ⟨r, rest, rfl, h⟩
    exact .look r h

@[simp] theorem runs_act_iff {g : Gesture} {next : Except Fault Unit → Plan α}
    {es : List Exchange} {a : α} :
    (Plan.act g next).Runs es a ↔ ∃ r rest, es = .act g r :: rest ∧ (next r).Runs rest a := by
  constructor
  · intro h
    cases h with
    | act r h => exact ⟨r, _, rfl, h⟩
  · rintro ⟨r, rest, rfl, h⟩
    exact .act r h

theorem runs_map {f : α → β} {plan : Plan α} {es : List Exchange} {b : β}
    (h : (plan.map f).Runs es b) : ∃ a, plan.Runs es a ∧ f a = b := by
  induction plan generalizing es with
  | done a =>
    cases h
    exact ⟨a, .done a, rfl⟩
  | look next ih =>
    cases h with
    | look r h =>
      obtain ⟨a, ha, hb⟩ := ih r h
      exact ⟨a, .look r ha, hb⟩
  | act g next ih =>
    cases h with
    | act r h =>
      obtain ⟨a, ha, hb⟩ := ih r h
      exact ⟨a, .act r ha, hb⟩

end Plan

theorem Answer.exists_toExcept? {α : Type} {x : Answer α} (h : x ≠ .overflow) :
    ∃ r, x.toExcept? = some r := by
  cases x with
  | ok a => exact ⟨.ok a, rfl⟩
  | fault f => exact ⟨.error f, rfl⟩
  | overflow => exact absurd rfl h

/-- A surface that has something to say to every request, be it a fault. -/
def Surface.Answers {τ : Type} (s : Surface (StateM τ)) : Prop :=
  ∀ t, (s.look t).1 ≠ .overflow ∧ ∀ g, (s.act g t).1 ≠ .overflow

theorem Device.surface_answers : Device.surface.Answers := by
  intro d
  refine ⟨?_, fun g => ?_⟩
  · simp only [surface, ask]
    split <;> simp
  · simp only [surface, ask]
    split <;> simp

def Surface.noting {τ : Type} (s : Surface (StateM τ)) : Surface (StateM (τ × List Request)) where
  look t := ((s.look t.1).1, (s.look t.1).2, t.2 ++ [.liveTree])
  act g t := ((s.act g t.1).1, (s.act g t.1).2, t.2 ++ [.gesture g])

def Surface.recording {τ : Type} (s : Surface (StateM τ)) :
    Surface (StateM (τ × List Exchange)) where
  look t :=
    let (answer, t') := s.look t.1
    (answer, t', t.2 ++ (answer.toExcept?.map Exchange.look).toList)
  act g t :=
    let (answer, t') := s.act g t.1
    (answer, t', t.2 ++ (answer.toExcept?.map (Exchange.act g)).toList)

namespace Plan

variable {α β τ : Type}

@[simp] theorem on_done (s : Surface (StateM τ)) (a : α) (t : τ) :
    (Plan.done a).on s t = (some a, t) := rfl

theorem on_look (s : Surface (StateM τ)) (next : Except Fault (Option Node) → Plan α) (t : τ) :
    (Plan.look next).on s t =
      match (s.look t).1.toExcept? with
      | some r => (next r).on s (s.look t).2
      | none => (none, (s.look t).2) := by
  have hs : (Plan.look next).on s t = (match (s.look t).1.toExcept? with
      | some r => (next r).on s
      | none => (pure none : StateM τ (Option α))) (s.look t).2 := by rw [Plan.on]; rfl
  rw [hs]
  cases (s.look t).1.toExcept? <;> rfl

theorem on_act (s : Surface (StateM τ)) (g : Gesture) (next : Except Fault Unit → Plan α) (t : τ) :
    (Plan.act g next).on s t =
      match (s.act g t).1.toExcept? with
      | some r => (next r).on s (s.act g t).2
      | none => (none, (s.act g t).2) := by
  have hs : (Plan.act g next).on s t = (match (s.act g t).1.toExcept? with
      | some r => (next r).on s
      | none => (pure none : StateM τ (Option α))) (s.act g t).2 := by rw [Plan.on]; rfl
  rw [hs]
  cases (s.act g t).1.toExcept? <;> rfl

/-- A surface that answers every request lets every plan come to its end. -/
theorem on_isSome (s : Surface (StateM τ)) (hs : s.Answers) (plan : Plan α) (t : τ) :
    (plan.on s t).1.isSome = true := by
  induction plan generalizing t with
  | done a => rfl
  | look next ih =>
    obtain ⟨r, hr⟩ := Answer.exists_toExcept? (hs t).1
    rw [on_look, hr]
    exact ih r _
  | act g next ih =>
    obtain ⟨r, hr⟩ := Answer.exists_toExcept? ((hs t).2 g)
    rw [on_act, hr]
    exact ih r _

theorem on_noting (s : Surface (StateM τ)) (plan : Plan α) (t : τ) (requests : List Request) :
    ∃ more, plan.on s.noting (t, requests) = ((plan.on s t).1, (plan.on s t).2, more) := by
  induction plan generalizing t requests with
  | done a => exact ⟨requests, rfl⟩
  | look next ih =>
    have hl : s.noting.look (t, requests) =
      ((s.look t).1, (s.look t).2, requests ++ [.liveTree]) := rfl
    rw [on_look, on_look, hl]
    cases (s.look t).1.toExcept? with
    | none => exact ⟨_, rfl⟩
    | some r => exact ih r _ _
  | act g next ih =>
    have ha : s.noting.act g (t, requests) =
      ((s.act g t).1, (s.act g t).2, requests ++ [.gesture g]) := rfl
    rw [on_act, on_act, ha]
    cases (s.act g t).1.toExcept? with
    | none => exact ⟨_, rfl⟩
    | some r => exact ih r _ _

/-- A record changes nothing for a plan, and what is recorded is how the plan came to its end. -/
theorem on_recording (s : Surface (StateM τ)) (plan : Plan α) (t : τ) (es : List Exchange) :
    ∃ more, plan.on s.recording (t, es) = ((plan.on s t).1, (plan.on s t).2, es ++ more) ∧
      ∀ a, (plan.on s t).1 = some a → plan.Runs more a := by
  induction plan generalizing t es with
  | done a => exact ⟨[], by simp, by simp⟩
  | look next ih =>
    have hl : s.recording.look (t, es) = ((s.look t).1, (s.look t).2,
      es ++ ((s.look t).1.toExcept?.map Exchange.look).toList) := rfl
    rw [on_look, on_look, hl]
    cases (s.look t).1.toExcept? with
    | none => exact ⟨[], rfl, by simp⟩
    | some r =>
      obtain ⟨more, hon, hruns⟩ := ih r (s.look t).2 (es ++ [.look r])
      exact ⟨.look r :: more, by simpa using hon, fun a ha => .look r (hruns a ha)⟩
  | act g next ih =>
    have ha : s.recording.act g (t, es) = ((s.act g t).1, (s.act g t).2,
      es ++ ((s.act g t).1.toExcept?.map (Exchange.act g)).toList) := rfl
    rw [on_act, on_act, ha]
    cases (s.act g t).1.toExcept? with
    | none => exact ⟨[], rfl, by simp⟩
    | some r =>
      obtain ⟨more, hon, hruns⟩ := ih r (s.act g t).2 (es ++ [.act g r])
      exact ⟨.act g r :: more, by simpa using hon, fun a ha => .act r (hruns a ha)⟩

theorem runs_of_on (s : Surface (StateM τ)) (plan : Plan α) (t : τ) (a : α)
    (h : (plan.on s t).1 = some a) : ∃ es, plan.Runs es a := by
  obtain ⟨es, -, hruns⟩ := on_recording s plan t []
  exact ⟨es, hruns a h⟩

theorem on_map (s : Surface (StateM τ)) (f : α → β) (plan : Plan α) (t : τ) :
    (plan.map f).on s t = ((plan.on s t).1.map f, (plan.on s t).2) := by
  induction plan generalizing t with
  | done a => rfl
  | look next ih =>
    rw [map, on_look, on_look]
    cases (s.look t).1.toExcept? with
    | none => rfl
    | some r => exact ih r _
  | act g next ih =>
    rw [map, on_act, on_act]
    cases (s.act g t).1.toExcept? with
    | none => rfl
    | some r => exact ih r _

end Plan

end ScreenAgent
