import ScreenAgent.Agent.Device
import ScreenAgent.Agent.RulePolicy
import ScreenAgent.Archive.Sink
import ScreenAgent.Proofs.Runner.Waking

namespace ScreenAgent

variable {ω ε ρ : Type}

/-- How many events a task at a point still takes when the runner does not run any more. -/
def Point.leeway : Point ε ρ → Nat
  | .taking => 1
  | _ => 0

theorem Point.leeway_le_one (p : Point ε ρ) : p.leeway ≤ 1 := by
  cases p with
  | taking => exact Nat.le_refl 1
  | _ => exact Nat.zero_le 1

theorem Point.leeway_eq_zero {p : Point ε ρ} (h : p ≠ .taking) : p.leeway = 0 := by
  cases p with
  | taking => exact absurd rfl h
  | _ => rfl

namespace Interplay

variable {s t : Interplay ω ε ρ} {work : ω → ε → Option (ρ × ω)}

theorem calls_advance (s : Interplay ω ε ρ) : (s.advance work).calls = s.calls := by
  unfold advance
  split <;> rfl

theorem running_advance (s : Interplay ω ε ρ) :
    (s.advance work).runner.running = s.runner.running := by
  obtain ⟨⟨queue, running, processing, cycles, permit, point, w, reports⟩, calls, traffic,
    worked⟩ := s
  cases point with
  | taking => obtain ⟨-, hq⟩ | ⟨e, rest, -, hq⟩ := queue.pop_cases <;> simp [advance, Runner.advance, hq]
  | listening => cases permit <;> rfl
  | working e => cases hw : work w e <;> simp [advance, Runner.resume, hw]
  | _ => rfl

theorem running_proceed (h : s.runner.running = false) (place : Nat) (c : Call ε) :
    (s.proceed place c).runner.running = false := by
  cases c with
  | stop => rfl
  | wake => exact s.runner.notify_running.trans h
  | _ => exact h

/-- A call that is to stop the runner is under way until it has done so. -/
def StopBegun (s : Interplay ω ε ρ) : Prop := s.runner.running = false ∨ .stop ∈ s.calls

theorem StopBegun.run (h : s.StopBegun) (moves : List (Move ε)) : (s.run work moves).StopBegun := by
  apply run_keeps (P := StopBegun) ?begins ?proceeds ?advances h
  case begins => exact fun s c _ hs => hs.imp_right (List.mem_append_left _)
  case proceeds =>
    rintro s place c hc (hr | hm)
    · exact .inl (running_proceed hr place c)
    · cases c with
      | stop => exact .inl rfl
      | _ => exact .inr (mem_calls_proceed hc hm nofun)
  case advances =>
    intro s hs
    rwa [StopBegun, running_advance, calls_advance]

theorem run_append (work : ω → ε → Option (ρ × ω)) (s : Interplay ω ε ρ)
    (before after : List (Move ε)) :
    s.run work (before ++ after) = (s.run work before).run work after :=
  List.foldl_append

theorem stopBegun_of_mem {moves : List (Move ε)} (h : .stop ∈ moves) :
    (s.run work moves).StopBegun := by
  obtain ⟨before, after, rfl⟩ := List.append_of_mem h
  rw [run_append]
  have hb : ((s.run work before).move work .stop).StopBegun :=
    .inr (List.mem_append_right _ List.mem_cons_self)
  exact hb.run after

/-- What becomes of a runner that does not run any more. -/
structure Subsides (s t : Interplay ω ε ρ) : Prop where
  stopped : t.runner.running = false
  taken : ∃ more, t.traffic.taken = s.traffic.taken ++ more ∧
    more.length + t.runner.point.leeway ≤ s.runner.point.leeway

namespace Subsides

theorem refl (h : s.runner.running = false) : s.Subsides s :=
  ⟨h, [], by simp, by simp⟩

/-- A step that takes no event, and does not go where one is taken. -/
theorem of_taken_eq (h : s.Subsides t) {u : Interplay ω ε ρ} (hr : u.runner.running = false)
    (ht : u.traffic.taken = t.traffic.taken)
    (hp : u.runner.point.leeway ≤ t.runner.point.leeway) : s.Subsides u := by
  obtain ⟨more, hm, hl⟩ := h.taken
  exact ⟨hr, more, ht.trans hm, by omega⟩

theorem proceed (h : s.Subsides t) (place : Nat) (c : Call ε) : s.Subsides (t.proceed place c) := by
  have hr := running_proceed h.stopped place c
  cases c with
  | push e => exact h.of_taken_eq hr (t.traffic.taken_push ..) (Nat.le_refl _)
  | wake =>
    refine h.of_taken_eq hr rfl ?_
    change t.runner.notify.point.leeway ≤ _
    unfold Runner.notify
    split
    · exact Nat.zero_le _
    · exact Nat.le_refl _
  | _ => exact h.of_taken_eq hr rfl (Nat.le_refl _)

theorem advance (h : s.Subsides t) : s.Subsides (t.advance work) := by
  have hr : (t.advance work).runner.running = false := (running_advance t).trans h.stopped
  obtain ⟨more, hm, hl⟩ := h.taken
  have hs := h.stopped
  obtain ⟨⟨⟨items, capacity, dropped, pos⟩, running, processing, cycles, permit, point, w, reports⟩,
    calls, traffic, worked⟩ := t
  cases point with
  | checking =>
    -- a runner that does not run is left, and its queue is not looked at
    obtain rfl : running = false := hs
    exact h.of_taken_eq hr rfl (Nat.zero_le _)
  | taking =>
    cases items with
    | nil =>
      have ht : (traffic.pop none).taken = traffic.taken := by simp
      exact h.of_taken_eq hr ht (Nat.zero_le _)
    | cons e rest =>
      refine ⟨hr, more ++ [e], ?_, ?_⟩
      · calc
          (traffic.pop (some e)).taken = traffic.taken ++ [e] := traffic.taken_pop (some e)
          _ = s.traffic.taken ++ (more ++ [e]) := by
            rw [show traffic.taken = _ from hm, List.append_assoc]
      · -- the leeway is used up
        have hone : more.length + 1 ≤ s.runner.point.leeway := hl
        simpa [Interplay.advance, Runner.advance, EventQueue.pop, Point.leeway] using hone
  | listening => cases permit <;> exact h.of_taken_eq hr rfl (Nat.zero_le _)
  | working e =>
    refine h.of_taken_eq hr rfl ?_
    simp only [Interplay.advance]
    cases hw : work w e <;> exact Nat.zero_le _
  | _ => exact h.of_taken_eq hr rfl (Nat.zero_le _)

theorem run (h : s.runner.running = false) (moves : List (Move ε)) :
    s.Subsides (s.run work moves) :=
  run_keeps (fun _ _ _ ht => ⟨ht.stopped, ht.taken⟩) (fun _ place c _ ht => ht.proceed place c)
    (fun _ ht => ht.advance) (refl h) moves

end Subsides

end Interplay

namespace Agent

section
variable {π ρ σ τ : Type} [Policy π] [Reward ρ] [Sink σ]

/-- Once a call has stopped the runner, in whatever order handles and task get their turns, the task
takes one more event at most, and none unless it has looked at the runner before and not at the queue
yet; the agent works on nothing that was not taken. Whatever is delivered is refused and leaves all as it
is. -/
theorem at_most_one_after_stop (queueCapacity : Nat) (surface : Surface (StateM τ))
    (stamps : Nat → Stamp) (a : Agent π ρ σ) (t : τ) (before after : List (Move Node)) :
    let s := (Interplay.start queueCapacity (a, t)).run (work surface stamps) before
    let u := s.run (work surface stamps) after
    (.stop ∈ before → .stop ∉ s.calls → s.runner.running = false) ∧
    (s.runner.running = false →
      u.runner.running = false ∧
      (∃ more, u.traffic.taken = s.traffic.taken ++ more ∧ more.length ≤ 1 ∧
        (s.runner.point ≠ .taking → more = []) ∧
        u.worked.map Prod.fst <+: s.traffic.taken ++ more ∧
        workAll (work surface stamps) (a, t) (u.worked.map Prod.fst) =
          some (u.worked.map Prod.snd, u.runner.worker)) ∧
      ∀ e : Node, (Call.deliver e).step u.runner = (.inr (.error .stopped), u.runner)) := by
  intro s u
  refine ⟨fun hm hn => (Interplay.stopBegun_of_mem hm).resolve_right hn, fun hr => ?_⟩
  have hu : s.Subsides u := .run hr after
  have ht : u.Tallies (work surface stamps) (a, t) :=
    ((Interplay.Tallies.start ..).run before).run after
  obtain ⟨more, hm, hl⟩ := hu.taken
  obtain ⟨inHand, hi, -⟩ := ht.exists_inHand
  refine ⟨hu.stopped, ⟨more, hm, ?_, ?_, ?_, ht.work_eq⟩, fun e => ?_⟩
  · have hs := s.runner.point.leeway_le_one
    omega
  · intro hp
    have hs := Point.leeway_eq_zero hp
    exact List.eq_nil_of_length_eq_zero (by omega)
  · rw [← hm, hi]
    exact List.prefix_append ..
  · simp [Call.step, hu.stopped]

end

/-- The stop has returned, the event is still there, and it is the one that is taken after all. -/
theorem at_most_one_after_stop_go :
    let a := ofConfig {} (RulePolicy.ofGoal ⟨[⟨.byId "go", .click⟩]⟩) ShapedReward.mk
      (none : Option Archive)
    let go := Node.button "go" "Go"
    let before : List (Move Node) :=
      [.task, .deliver go, .call 0, .call 0, .call 0, .stop, .call 0, .call 0]
    let s := (Interplay.start 1 (a, ({ tree := some go } : Device))).run
      (work Device.surface fun _ => {}) before
    let u := s.run (work Device.surface fun _ => {}) [.task, .task, .task]
    .stop ∈ before ∧ .stop ∉ s.calls ∧ s.runner.running = false ∧ u.runner.running = false ∧
      s.traffic.taken.length = 0 ∧ u.traffic.taken.length = 1 ∧
      (∃ more, u.traffic.taken = s.traffic.taken ++ more ∧ more.length ≤ 1) ∧
      (Call.deliver go).step u.runner = (.inr (.error .stopped), u.runner) := by
  intro a go before s u
  have hm : .stop ∈ before := by simp [before]
  have hn : .stop ∉ s.calls := List.not_mem_nil
  obtain ⟨hs, hu⟩ := at_most_one_after_stop 1 Device.surface (fun _ => {}) a
    { tree := some go } before [.task, .task, .task]
  obtain ⟨-, ⟨more, ht, hl, -⟩, hd⟩ := hu (hs hm hn)
  exact ⟨hm, hn, by decide +kernel, by decide +kernel, by decide +kernel, by decide +kernel,
    ⟨more, ht, hl⟩, hd go⟩

/-- The agent may come to touch the screen in a cycle that begins after a stop has returned: the task
has looked at the runner already, and takes the event that is still there. -/
theorem works_after_stop :
    ¬ ∀ (goal : Goal) (device : Device) (before after : List (Move Node)),
      let a := ofConfig {} (RulePolicy.ofGoal goal) ShapedReward.mk (none : Option Archive)
      let s := (Interplay.start 1 (a, device)).run (work Device.surface fun _ => {}) before
      let u := s.run (work Device.surface fun _ => {}) after
      .stop ∈ before → s.calls = [] → s.traffic.taken = s.worked.map Prod.fst →
        u.runner.worker.2.requests = s.runner.worker.2.requests := by
  intro h
  have hsame := h ⟨[⟨.byId "go", .click⟩]⟩ { tree := some (.button "go" "Go") }
    [.task, .deliver (.button "go" "Go"), .call 0, .call 0, .call 0, .stop, .call 0, .call 0]
    [.task, .task, .task] (by simp) rfl rfl
  have hlen := congrArg List.length hsame
  exact absurd hlen (by decide +kernel)

end Agent

end ScreenAgent
