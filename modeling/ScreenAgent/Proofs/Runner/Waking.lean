import ScreenAgent.Proofs.Runner.Interleaving

namespace ScreenAgent

variable {ω ε ρ : Type}

/-- Whether a call has put an event in, or stopped the runner, and has not woken the task up for it
yet. -/
def Call.isOwing : Call ε → Bool
  | .count | .wake => true
  | _ => false

/-- Whether there is something that the task has not seen although it looked: that the runner was
stopped since the task looked at it, or that an event came in since the queue was empty. -/
def Runner.Missed (r : Runner ω ε ρ) : Prop :=
  match r.point with
  | .taking => r.running = false
  | .listening | .parked => r.queue.items ≠ [] ∨ r.running = false
  | _ => False

namespace Interplay

/-- Whether a wake-up is there for the task, or is going to be given. -/
def Rousing (s : Interplay ω ε ρ) : Prop :=
  s.runner.permit = true ∨ ∃ c ∈ s.calls, c.isOwing = true

/-- What the task missed it will hear of. -/
structure Wakeful (s : Interplay ω ε ρ) : Prop where
  rousing : s.runner.Missed → s.Rousing
  asleep : s.runner.point = .parked → s.runner.permit = false

variable {s : Interplay ω ε ρ} {work : ω → ε → Option (ρ × ω)}

theorem mem_calls_proceed {place : Nat} {c d : Call ε} (hc : s.calls[place]? = some c)
    (hd : d ∈ s.calls) (hn : d ≠ c) : d ∈ (s.proceed place c).calls := by
  obtain ⟨hp, rfl⟩ := List.getElem?_eq_some_iff.mp hc
  have hs : s.calls = s.calls.take place ++ s.calls[place] :: s.calls.drop (place + 1) := by
    simp
  rw [hs, List.mem_append, List.mem_cons] at hd
  simp only [proceed, List.mem_append]
  obtain hd | rfl | hd := hd
  · exact .inl (.inl hd)
  · exact absurd rfl hn
  · exact .inr hd

theorem left_mem_calls_proceed (place : Nat) {c d : Call ε} {r : Runner ω ε ρ}
    (h : c.step s.runner = (.inl d, r)) : d ∈ (s.proceed place c).calls := by
  simp [proceed, h]

namespace Wakeful

theorem start (queueCapacity : Nat) (worker : ω) :
    (Interplay.start queueCapacity worker : Interplay ω ε ρ).Wakeful where
  rousing := False.elim
  asleep := fun h => by cases h

theorem begin (h : s.Wakeful) (c : Call ε) : { s with calls := s.calls ++ [c] }.Wakeful where
  rousing := by
    intro hm
    obtain hp | ⟨d, hd, ho⟩ := h.rousing hm
    · exact .inl hp
    · exact .inr ⟨d, List.mem_append_left _ hd, ho⟩
  asleep := h.asleep

/-- A call owes a wake-up from its change to the wake-up. -/
theorem of_owing {d : Call ε} (hd : d ∈ s.calls) (ho : d.isOwing = true)
    (ha : s.runner.point = .parked → s.runner.permit = false) : s.Wakeful :=
  ⟨fun _ => .inr ⟨d, hd, ho⟩, ha⟩

theorem proceed (h : s.Wakeful) {place : Nat} {c : Call ε} (hc : s.calls[place]? = some c) :
    (s.proceed place c).Wakeful := by
  cases c with
  | deliver e =>
    -- nothing is changed by a look at the runner
    refine ⟨fun hm => ?_, h.asleep⟩
    obtain hp | ⟨d, hd, ho⟩ := h.rousing hm
    · exact .inl hp
    · refine .inr ⟨d, mem_calls_proceed hc hd ?_, ho⟩
      rintro rfl
      cases ho
  | push e =>
    refine of_owing (left_mem_calls_proceed place rfl) ?_ h.asleep
    split <;> rfl
  | count => exact of_owing (left_mem_calls_proceed place rfl) rfl h.asleep
  | stop => exact of_owing (left_mem_calls_proceed place rfl) rfl h.asleep
  | wake =>
    have hr : (s.proceed place .wake).runner = s.runner.notify := rfl
    by_cases hp : s.runner.point = .parked
    · have hn : s.runner.notify = { s.runner with point := .checking } := by
        simp [Runner.notify, hp]
      rw [hn] at hr
      refine ⟨fun hm => ?_, fun hq => ?_⟩
      · rw [hr] at hm
        exact hm.elim
      · rw [hr] at hq
        cases hq
    · have hn : s.runner.notify = { s.runner with permit := true } := by
        unfold Runner.notify
        split
        · exact absurd ‹_› hp
        · rfl
      rw [hn] at hr
      refine ⟨fun _ => .inl (by rw [hr]), fun hq => ?_⟩
      rw [hr] at hq
      exact absurd hq hp

theorem advance (h : s.Wakeful) : (s.advance work).Wakeful := by
  have hr := h.rousing
  have ha := h.asleep
  obtain ⟨⟨⟨items, capacity, dropped, pos⟩, running, processing, cycles, permit, point, w, reports⟩,
    calls, traffic, worked⟩ := s
  cases point with
  | checking =>
    cases running with
    | true =>
      constructor
      · intro hm
        cases hm
      · intro hp
        cases hp
    | false =>
      refine ⟨False.elim, fun hp => ?_⟩
      cases hp
  | taking =>
    cases items with
    | nil =>
      -- the queue is empty at this very moment, but the runner may have been stopped before it
      constructor
      · intro hm
        obtain hi | hs := hm
        · exact absurd rfl hi
        · exact hr hs
      · intro hp
        cases hp
    | cons e rest =>
      refine ⟨False.elim, fun hp => ?_⟩
      cases hp
  | listening =>
    cases permit with
    | true =>
      refine ⟨False.elim, fun hp => ?_⟩
      cases hp
    | false => exact ⟨hr, fun _ => rfl⟩
  | parked => exact ⟨hr, ha⟩
  | working e =>
    constructor
    · intro hm
      simp only [Interplay.advance, Runner.resume, Runner.Missed] at hm
      cases hw : work w e <;> simp [hw] at hm
    · intro hp
      simp only [Interplay.advance, Runner.resume] at hp
      cases hw : work w e <;> simp [hw] at hp
  | _ =>
    refine ⟨False.elim, fun hp => ?_⟩
    cases hp

theorem run (h : s.Wakeful) (moves : List (Move ε)) : (s.run work moves).Wakeful :=
  run_keeps (fun _ c _ hs => hs.begin c) (fun _ _ _ hc hs => hs.proceed hc)
    (fun _ hs => hs.advance) h moves

end Wakeful

/-- In whatever order handles and task get their turns: the task rests with an event in the queue, or
after a stop, only as long as a call is under way that has made its change and has not woken the task up
yet. So once all calls have returned, a task at rest has nothing to do. -/
theorem no_wakeup_lost (queueCapacity : Nat) (work : ω → ε → Option (ρ × ω)) (worker : ω)
    (moves : List (Move ε)) :
    let s := (start queueCapacity worker).run work moves
    (s.runner.point = .parked → s.runner.queue.items ≠ [] ∨ s.runner.running = false →
      ∃ c ∈ s.calls, c = .count ∨ c = .wake) ∧
    (s.calls = [] → s.runner.point = .parked →
      s.runner.queue.items = [] ∧ s.runner.running = true) := by
  intro s
  have h : s.Wakeful := (Wakeful.start queueCapacity worker).run moves
  have howing : s.runner.point = .parked → s.runner.queue.items ≠ [] ∨ s.runner.running = false →
      ∃ c ∈ s.calls, c = .count ∨ c = .wake := by
    intro hp hw
    have hm : s.runner.Missed := by
      rw [Runner.Missed, hp]
      exact hw
    obtain hn | ⟨c, hc, ho⟩ := h.rousing hm
    · rw [h.asleep hp] at hn
      cases hn
    · refine ⟨c, hc, ?_⟩
      cases c with
      | count => exact .inl rfl
      | wake => exact .inr rfl
      | _ => cases ho
  refine ⟨howing, fun hc hp => ?_⟩
  by_contra hw
  have hleft : s.runner.queue.items ≠ [] ∨ s.runner.running = false := by
    rw [not_and_or, Bool.not_eq_true] at hw
    exact hw
  obtain ⟨c, hm, -⟩ := howing hp hleft
  rw [hc] at hm
  cases hm

-- The task has found the queue empty when an event comes and the runner is stopped.
example :
    let work (sum n : Nat) : Option (Nat × Nat) := some (sum + n, sum + n)
    let moves : List (Move Nat) :=
      [.task, .task, .deliver 3, .stop, .call 0, .call 0, .call 1, .task]
    let s := (Interplay.start 1 0).run work moves
    s.runner.point matches .parked ∧ s.calls.map Call.isOwing = [true, true] := by
  decide

end Interplay

end ScreenAgent
