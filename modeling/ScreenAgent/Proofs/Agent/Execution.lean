import ScreenAgent.Agent.Execution
import ScreenAgent.Proofs.Agent.Exchange
import ScreenAgent.Proofs.Screen.Preorder

namespace ScreenAgent

def Action.touch? : Action → Option (Element → Gesture)
  | click _ => some .click
  | setText _ text => some fun e => .setText e text
  | _ => none

/-- One look for a target, and one gesture on it if it is there. -/
inductive Ref.Sought (p : Perception) (target : Ref) (gesture : Element → Gesture) :
    List Exchange → Prop
  | unseen (fault : Fault) : Sought p target gesture [.look (.error fault)]
  | gone {live : Option Node} (hr : (p.analyze live).resolve? target = none) :
      Sought p target gesture [.look (.ok live)]
  | touched {live : Option Node} {i : Nat} {e : Element}
      (hr : (p.analyze live).resolve? target = some (i, e)) (r : Except Fault Unit) :
      Sought p target gesture [.look (.ok live), .act (gesture e) r]

/-- The exchanges that an action takes, whatever the surface says in them. -/
inductive Action.Takes (p : Perception) : Action → List Exchange → Prop
  | noOp : Takes p .noOp []
  | scroll (direction : Direction) (r : Except Fault Unit) :
      Takes p (.scroll direction) [.act (.scroll direction) r]
  | wait (ms : UInt64) (r : Except Fault Unit) : Takes p (.wait ms) [.act (.wait ms) r]
  | touch {a : Action} {target : Ref} {gesture : Element → Gesture} {es : List Exchange}
      (ht : a.target? = some target) (hg : a.touch? = some gesture)
      (h : target.Sought p gesture es) : Takes p a es

/-- An outcome that tells what became of an action by its exchanges: whether each request was granted and
the target, if there is one, was found; and if not, whether the target was gone from what was seen, or
which fault a request ran into. -/
structure Outcome.Tells (p : Perception) (target? : Option Ref) (es : List Exchange) (o : Outcome) :
    Prop where
  succeeded_iff : o.succeeded = true ↔ (∀ x ∈ es, x.fault? = none) ∧
    ∀ target, target? = some target →
      ∃ live, .look (.ok live) ∈ es ∧ ((p.analyze live).resolve? target).isSome = true
  stale_iff : o.errorKind = some .staleReference ↔ ∃ target live, target? = some target ∧
    .look (.ok live) ∈ es ∧ (p.analyze live).resolve? target = none
  failure_iff : ∀ message,
    o.errorKind = some .executionFailure ∧ o.message = some message ↔
      ∃ x ∈ es, ∃ fault, x.fault? = some fault ∧ fault.message = message
  kind_iff : o.errorKind = none ↔ o.succeeded = true
  message_iff : o.message = none ↔ o.succeeded = true

namespace Outcome

variable {p : Perception} {target : Ref}

theorem tells_success : success.Tells p none [] := by
  constructor <;> simp [success]

/-- A request that ran into a fault, as the last of some exchanges without one. -/
theorem tells_unseen (fault : Fault) :
    (failure .executionFailure fault.message).Tells p (some target) [.look (.error fault)] := by
  constructor <;> simp [failure, Exchange.fault?]

theorem tells_gone {live : Option Node} (hr : (p.analyze live).resolve? target = none)
    (message : String) : (stale message).Tells p (some target) [.look (.ok live)] := by
  constructor <;> simp [stale, failure, Exchange.fault?, hr]

end Outcome

theorem Snapshot.resolve?_empty (target : Ref) : empty.resolve? target = none := by
  cases target <;> rfl

namespace Action

variable {p : Perception} {target : Ref}

theorem outcomeOf_tells (g : Gesture) (r : Except Fault Unit) :
    (outcomeOf r).Tells p none [.act g r] := by
  cases r <;> constructor <;> simp [outcomeOf, Outcome.success, Outcome.failure, Exchange.fault?]

theorem outcomeOf_tells_touched {live : Option Node} {i : Nat} {e : Element}
    (hr : (p.analyze live).resolve? target = some (i, e)) (g : Gesture) (r : Except Fault Unit) :
    (outcomeOf r).Tells p (some target) [.look (.ok live), .act g r] := by
  cases r <;> constructor <;> simp [outcomeOf, Outcome.success, Outcome.failure, Exchange.fault?, hr]

theorem runs_perform {g : Gesture} {es : List Exchange} {o : Outcome} :
    (perform g).Runs es o ↔ ∃ r, es = [.act g r] ∧ o = outcomeOf r := by
  simp [perform]

theorem performOn_runs {gesture : Element → Gesture} {es : List Exchange} {o : Outcome}
    (h : (performOn p target gesture).Runs es o) :
    target.Sought p gesture es ∧ o.Tells p (some target) es := by
  obtain ⟨r, rest, rfl, hs⟩ := Plan.runs_look_iff.mp h
  cases r with
  | error fault =>
    obtain ⟨rfl, rfl⟩ := Plan.runs_done_iff.mp hs
    exact ⟨.unseen fault, Outcome.tells_unseen fault⟩
  | ok live =>
    cases hr : (p.analyze live).resolve? target with
    | none =>
      simp only [hr] at hs
      obtain ⟨rfl, rfl⟩ := Plan.runs_done_iff.mp hs
      exact ⟨.gone hr, Outcome.tells_gone hr _⟩
    | some found =>
      simp only [hr] at hs
      obtain ⟨r, rfl, rfl⟩ := runs_perform.mp hs
      exact ⟨.touched hr r, outcomeOf_tells_touched hr _ r⟩

theorem execute_runs {a : Action} {es : List Exchange} {o : Outcome}
    (h : (a.execute p).Runs es o) : a.Takes p es ∧ o.Tells p a.target? es := by
  cases a with
  | noOp =>
    obtain ⟨rfl, rfl⟩ := Plan.runs_done_iff.mp h
    exact ⟨.noOp, Outcome.tells_success⟩
  | click target =>
    obtain ⟨hs, ht⟩ := performOn_runs h
    exact ⟨.touch rfl rfl hs, ht⟩
  | setText target text =>
    obtain ⟨hs, ht⟩ := performOn_runs h
    exact ⟨.touch rfl rfl hs, ht⟩
  | scroll direction =>
    obtain ⟨r, rfl, rfl⟩ := runs_perform.mp h
    exact ⟨.scroll direction r, outcomeOf_tells _ r⟩
  | wait ms =>
    obtain ⟨r, rfl, rfl⟩ := runs_perform.mp h
    exact ⟨.wait ms r, outcomeOf_tells _ r⟩

theorem execute_of_target? {a : Action} (ha : a.target? = some target) (p : Perception) :
    ∃ gesture, a.touch? = some gesture ∧ a.execute p = performOn p target gesture := by
  cases a with
  | click t =>
    obtain rfl : t = target := Option.some.inj ha
    exact ⟨_, rfl, rfl⟩
  | setText t text =>
    obtain rfl : t = target := Option.some.inj ha
    exact ⟨_, rfl, rfl⟩
  | scroll | wait | noOp => cases ha

variable {τ : Type} {surface : Surface (StateM τ)} {t : τ}

theorem on_performOn_look {gesture : Element → Gesture} {live : Option Node}
    (hl : (surface.look t).1 = .ok live) :
    (performOn p target gesture).on surface t =
      match (p.analyze live).resolve? target with
      | some (_, e) => (perform (gesture e)).on surface (surface.look t).2
      | none => (some (.stale (target.display ++ " no longer present")), (surface.look t).2) := by
  rw [performOn, Plan.on_look, hl]
  simp only [Answer.toExcept?]
  cases (p.analyze live).resolve? target <;> rfl

theorem requests_perform (g : Gesture) (requests : List Request) :
    ((perform g).on surface.noting (t, requests)).2.2 = requests ++ [.gesture g] := by
  have ha : (surface.noting.act g (t, requests)).2.2 = requests ++ [.gesture g] := rfl
  rw [perform, Plan.on_act]
  cases (surface.noting.act g (t, requests)).1.toExcept? <;> exact ha

theorem requests_performOn_of_some (gesture : Element → Gesture) {live : Option Node} {i : Nat}
    {e : Element} (hl : (surface.look t).1 = .ok live)
    (hr : (p.analyze live).resolve? target = some (i, e)) :
    ((performOn p target gesture).on surface.noting (t, [])).2.2 =
      [.liveTree, .gesture (gesture e)] := by
  have hn : (surface.noting.look (t, [])).1 = .ok live := hl
  rw [on_performOn_look hn, hr]
  exact requests_perform (gesture e) [.liveTree]

theorem on_performOn_of_none (gesture : Element → Gesture) {live : Option Node}
    (hl : (surface.look t).1 = .ok live) (hr : (p.analyze live).resolve? target = none) :
    (performOn p target gesture).on surface.noting (t, []) =
      (some (.stale (target.display ++ " no longer present")), (surface.look t).2, [.liveTree]) := by
  have hn : (surface.noting.look (t, [])).1 = .ok live := hl
  rw [on_performOn_look hn, hr]
  rfl

/-- Whatever a surface answers, it is asked for just what the action takes, and the outcome tells what
came of it. Where there is no window, or a tree with too many nodes, no target is found. -/
theorem executes_exactly (p : Perception) (a : Action) (surface : Surface (StateM τ)) (t : τ) :
    let run := (a.execute p).on surface.recording (t, [])
    (a.execute p).on surface t = (run.1, run.2.1) ∧
    (surface.Answers → ∃ o, run.1 = some o) ∧
    (∀ o, run.1 = some o → a.Takes p run.2.2 ∧ o.Tells p a.target? run.2.2) ∧
    ∀ target, (p.analyze (none : Option Node)).resolve? target = none ∧
      ∀ tree : Node, p.maxNodes < tree.count → (p.analyze (some tree)).resolve? target = none := by
  intro run
  obtain ⟨es, hon, hruns⟩ := Plan.on_recording surface (a.execute p) t []
  have hrun : run = (((a.execute p).on surface t).1, ((a.execute p).on surface t).2, es) := hon
  refine ⟨?_, fun hs => ?_, fun o ho => ?_, fun target => ⟨?_, fun tree ht => ?_⟩⟩
  · rw [hrun]
    rfl
  · rw [hrun]
    exact Option.isSome_iff_exists.mp (Plan.on_isSome surface hs (a.execute p) t)
  · rw [hrun] at ho ⊢
    exact execute_runs (hruns o ho)
  · exact Snapshot.resolve?_empty target
  · rw [p.analyze_of_lt_count tree ht]
    exact Snapshot.resolve?_empty target

/-- A text is to go into the second field of its name. The field is there, but the surface refuses. -/
theorem executes_exactly_refused :
    let device : Device :=
      { tree := some ((Node.ofClass "").withChildren [.editText "name", .button "ok" "", .editText "name"])
        faults := [("set_text", .rejected "read only")] }
    let run := ((setText (.byId "name" 1) "Ada").execute {}).on Device.surface.recording (device, [])
    Device.surface.Answers ∧ ∃ o, run.1 = some o ∧
      (setText (.byId "name" 1) "Ada").Takes {} run.2.2 ∧ o.Tells {} (some (.byId "name" 1)) run.2.2 ∧
      run.2.2.length = 2 ∧ o.message = some "Surface rejected action: read only" := by
  intro device run
  obtain ⟨-, hend, htells, -⟩ :=
    executes_exactly {} (setText (.byId "name" 1) "Ada") Device.surface device
  obtain ⟨o, ho⟩ := hend Device.surface_answers
  obtain ⟨hs, ht⟩ := htells o ho
  have hm : run.1.bind Outcome.message = some "Surface rejected action: read only" := by
    decide +kernel
  rw [ho] at hm
  exact ⟨Device.surface_answers, o, ho, hs, ht, by decide +kernel, hm⟩

end Action

end ScreenAgent
