import ScreenAgent.Agent.Cycle
import ScreenAgent.Proofs.Runner.Traffic
import ScreenAgent.Runner.Basic

namespace ScreenAgent

section
variable {ω ε ρ : Type}

/-- The work on events one after the other: what comes out of each, and the worker after the last. There
is nothing if the work on one of them comes to no end. -/
def workAll (work : ω → ε → Option (ρ × ω)) (w : ω) : List ε → Option (List ρ × ω)
  | [] => some ([], w)
  | e :: es => (work w e).bind fun a => (workAll work a.2 es).map fun p => (a.1 :: p.1, p.2)

theorem workAll_concat {work : ω → ε → Option (ρ × ω)} {w v u : ω} {es : List ε} {rs : List ρ}
    {e : ε} {r : ρ} (h : workAll work w es = some (rs, v)) (he : work v e = some (r, u)) :
    workAll work w (es ++ [e]) = some (rs ++ [r], u) := by
  induction es generalizing w rs with
  | nil =>
    obtain ⟨rfl, rfl⟩ := Prod.mk.inj (Option.some.inj h)
    simp [workAll, he]
  | cons first es ih =>
    obtain ⟨⟨a, x⟩, ha, hr⟩ := Option.bind_eq_some_iff.mp h
    obtain ⟨⟨as, y⟩, hs, hp⟩ := Option.map_eq_some_iff.mp hr
    obtain ⟨rfl, rfl⟩ := Prod.mk.inj hp
    simp [workAll, ha, ih hs]

namespace Point

/-- What was taken out of the queue, against what the work has come to an end on: they differ by the event
that the task has in hand. -/
def Holds (p : Point ε ρ) (taken worked : List ε) : Prop :=
  match p with
  | .marking e | .working e => taken = worked ++ [e]
  | .broken => ∃ e, taken = worked ++ [e]
  | _ => taken = worked

/-- How much has been worked on and is not counted yet. -/
def uncounted : Point ε ρ → Nat
  | .clearing _ | .counting _ => 1
  | _ => 0

end Point

def Call.isCount : Call ε → Bool
  | .count => true
  | _ => false

/-- A runner, the calls of its handles that are under way, and what they and the task have come to. -/
structure Interplay (ω ε ρ : Type) where
  runner : Runner ω ε ρ
  calls : List (Call ε) := []
  traffic : EventQueue.Traffic ε := {}
  /-- The events on which the work has come to an end, with what came out of it. -/
  worked : List (ε × ρ) := []

inductive Move (ε : Type)
  /-- A handle begins to deliver an event. -/
  | deliver (event : ε)
  /-- A handle begins to stop the runner. -/
  | stop
  /-- A call goes on. -/
  | call (place : Nat)
  | task

namespace Interplay

def start (queueCapacity : Nat) (worker : ω) : Interplay ω ε ρ :=
  { runner := .start queueCapacity worker }

def proceed (s : Interplay ω ε ρ) (place : Nat) (c : Call ε) : Interplay ω ε ρ :=
  { s with
    runner := (c.step s.runner).2
    calls := s.calls.take place ++ (c.step s.runner).1.getLeft?.toList ++ s.calls.drop (place + 1)
    traffic := match c with
      | .push e => s.traffic.push e (s.runner.queue.enqueue e).1
      | _ => s.traffic }

/-- The next step of the task; one that is parked or at its end stays there. -/
def advance (work : ω → ε → Option (ρ × ω)) (s : Interplay ω ε ρ) : Interplay ω ε ρ :=
  match s.runner.point with
  | .working e =>
    { s with
      runner := s.runner.resume (work s.runner.worker e)
      worked := s.worked ++ ((work s.runner.worker e).map fun a => (e, a.1)).toList }
  | .taking =>
    { s with
      runner := s.runner.advance.getD s.runner
      traffic := s.traffic.pop s.runner.queue.pop.1 }
  | _ => { s with runner := s.runner.advance.getD s.runner }

/-- One step of one of them. A call that is not under way does nothing. -/
def move (work : ω → ε → Option (ρ × ω)) (s : Interplay ω ε ρ) : Move ε → Interplay ω ε ρ
  | .deliver e => { s with calls := s.calls ++ [.deliver e] }
  | .stop => { s with calls := s.calls ++ [.stop] }
  | .call place =>
    match s.calls[place]? with
    | some c => s.proceed place c
    | none => s
  | .task => s.advance work

def run (work : ω → ε → Option (ρ × ω)) (s : Interplay ω ε ρ) (moves : List (Move ε)) :
    Interplay ω ε ρ :=
  moves.foldl (move work) s

/-- What is kept when a call begins, when one goes on and when the task does is kept by every run. -/
theorem run_keeps {P : Interplay ω ε ρ → Prop} {work : ω → ε → Option (ρ × ω)}
    (begins : ∀ s c, (∃ e, c = .deliver e) ∨ c = .stop → P s → P { s with calls := s.calls ++ [c] })
    (proceeds : ∀ s place c, s.calls[place]? = some c → P s → P (s.proceed place c))
    (advances : ∀ s, P s → P (s.advance work)) {s : Interplay ω ε ρ} (h : P s)
    (moves : List (Move ε)) : P (s.run work moves) := by
  induction moves generalizing s with
  | nil => exact h
  | cons m moves ih =>
    apply ih
    cases m with
    | deliver e => exact begins s _ (.inl ⟨e, rfl⟩) h
    | stop => exact begins s _ (.inr rfl) h
    | task => exact advances s h
    | call place =>
      unfold Interplay.move
      dsimp only
      split
      · rename_i c hc
        exact proceeds s place c hc h
      · exact h

/-- What has come in against what has become of it. -/
structure Tallies (work : ω → ε → Option (ρ × ω)) (worker : ω) (s : Interplay ω ε ρ) : Prop where
  traffic : s.traffic.Tallies s.runner.queue (s.calls.countP Call.isCount)
  holds : s.runner.point.Holds s.traffic.taken (s.worked.map Prod.fst)
  work_eq : workAll work worker (s.worked.map Prod.fst) =
    some (s.worked.map Prod.snd, s.runner.worker)
  cycles_eq : s.runner.cycles + s.runner.point.uncounted = s.worked.length

namespace Tallies

variable {work : ω → ε → Option (ρ × ω)} {worker : ω} {s : Interplay ω ε ρ}

theorem start (queueCapacity : Nat) (work : ω → ε → Option (ρ × ω)) (worker : ω) :
    (Interplay.start queueCapacity worker).Tallies work worker where
  traffic := .start queueCapacity
  holds := rfl
  work_eq := rfl
  cycles_eq := rfl

/-- A call that begins has touched nothing yet. -/
theorem begin (h : s.Tallies work worker) {c : Call ε} (hc : c.isCount = false) :
    { s with calls := s.calls ++ [c] }.Tallies work worker where
  traffic := by simpa [hc] using h.traffic
  holds := h.holds
  work_eq := h.work_eq
  cycles_eq := h.cycles_eq

end Tallies

theorem countP_proceed {s : Interplay ω ε ρ} {place : Nat} {c : Call ε}
    (hc : s.calls[place]? = some c) :
    (s.proceed place c).calls.countP Call.isCount + (if c.isCount then 1 else 0) =
      s.calls.countP Call.isCount +
        (c.step s.runner).1.getLeft?.toList.countP Call.isCount := by
  obtain ⟨hp, rfl⟩ := List.getElem?_eq_some_iff.mp hc
  have hs : s.calls = s.calls.take place ++ s.calls[place] :: s.calls.drop (place + 1) := by
    simp
  have hcount := congrArg (List.countP Call.isCount) hs
  rw [List.countP_append, List.countP_cons] at hcount
  simp only [proceed, List.countP_append]
  omega

namespace Tallies

variable {work : ω → ε → Option (ρ × ω)} {worker : ω} {s : Interplay ω ε ρ}

theorem proceed (h : s.Tallies work worker) {place : Nat} {c : Call ε}
    (hc : s.calls[place]? = some c) : (s.proceed place c).Tallies work worker := by
  have hn := countP_proceed hc
  have ht := h.traffic
  cases c with
  | deliver e =>
    have hl : (s.proceed place (.deliver e)).calls.countP Call.isCount =
        s.calls.countP Call.isCount := by
      cases hr : s.runner.running <;> simpa [Call.step, Call.isCount, hr] using hn
    exact ⟨by rw [hl]; exact ht, h.holds, h.work_eq, h.cycles_eq⟩
  | push e =>
    have hl : (s.proceed place (.push e)).calls.countP Call.isCount =
        s.calls.countP Call.isCount + (s.runner.queue.enqueue e).1.toList.length := by
      cases he : (s.runner.queue.enqueue e).1 <;> simpa [Call.step, Call.isCount, he] using hn
    have hq := ht.enqueue e
    rw [← hl] at hq
    refine ⟨hq, ?_, h.work_eq, h.cycles_eq⟩
    change s.runner.point.Holds (s.traffic.push e _).taken _
    rw [EventQueue.Traffic.taken_push]
    exact h.holds
  | count =>
    have hl : (s.proceed place .count).calls.countP Call.isCount + 1 =
        s.calls.countP Call.isCount := by
      simpa [Call.step, Call.isCount] using hn
    rw [← hl] at ht
    exact ⟨ht.count, h.holds, h.work_eq, h.cycles_eq⟩
  | stop =>
    have hl : (s.proceed place .stop).calls.countP Call.isCount =
        s.calls.countP Call.isCount := by
      simpa [Call.step, Call.isCount] using hn
    exact ⟨by rw [hl]; exact ht, h.holds, h.work_eq, h.cycles_eq⟩
  | wake =>
    have hl : (s.proceed place .wake).calls.countP Call.isCount =
        s.calls.countP Call.isCount := by
      simpa [Call.step, Call.isCount] using hn
    obtain ⟨runner, calls, traffic, worked⟩ := s
    obtain ⟨queue, running, processing, cycles, permit, point, w, reports⟩ := runner
    rw [← hl] at ht
    cases point <;> exact ⟨ht, h.holds, h.work_eq, h.cycles_eq⟩

/-- The task takes the oldest event out, if there is one, and has it in hand then. -/
theorem take (h : s.Tallies work worker) (hp : s.runner.point = .taking) :
    (s.advance work).Tallies work worker := by
  have ht := h.traffic.pop
  have hh := h.holds
  have hc := h.cycles_eq
  rw [hp] at hh hc
  have hs : s.advance work = { s with
      runner := s.runner.advance.getD s.runner
      traffic := s.traffic.pop s.runner.queue.pop.1 } := by
    simp [Interplay.advance, hp]
  rw [hs]
  obtain ⟨-, hq⟩ | ⟨e, rest, -, hq⟩ := s.runner.queue.pop_cases
  · have hr : s.runner.advance = some { s.runner with point := .listening } := by
      simp [Runner.advance, hp, hq]
    rw [hq] at ht
    rw [hr, hq]
    exact ⟨ht, by simpa [Point.Holds] using hh, h.work_eq, hc⟩
  · have hr : s.runner.advance =
        some { s.runner with queue := s.runner.queue.pop.2, point := .marking e } := by
      simp [Runner.advance, hp, hq]
    rw [hq] at ht hr
    rw [hr, hq]
    exact ⟨ht, by simpa [Point.Holds] using hh, h.work_eq, hc⟩

/-- The work on the event in hand comes to its end, or to none. -/
theorem finish (h : s.Tallies work worker) {e : ε} (hp : s.runner.point = .working e) :
    (s.advance work).Tallies work worker := by
  have hh := h.holds
  have hc := h.cycles_eq
  rw [hp] at hh hc
  have hs : s.advance work = { s with
      runner := s.runner.resume (work s.runner.worker e)
      worked := s.worked ++ ((work s.runner.worker e).map fun a => (e, a.1)).toList } := by
    simp [Interplay.advance, hp]
  rw [hs]
  cases ha : work s.runner.worker e with
  | none =>
    exact {
      traffic := h.traffic
      holds := ⟨e, by simpa [Point.Holds] using hh⟩
      work_eq := by simpa [Runner.resume] using h.work_eq
      cycles_eq := by simpa [Runner.resume, Point.uncounted] using hc }
  | some a =>
    exact {
      traffic := h.traffic
      holds := by simpa [Runner.resume, Point.Holds] using hh
      work_eq := by simpa [Runner.resume] using workAll_concat h.work_eq ha
      cycles_eq := by simpa [Runner.resume, Point.uncounted] using hc }

/-- Every other step of the task leaves the queue and the worker as they are. -/
theorem advance (h : s.Tallies work worker) : (s.advance work).Tallies work worker := by
  cases hp : s.runner.point with
  | taking => exact h.take hp
  | working e => exact h.finish hp
  | _ =>
    obtain ⟨⟨queue, running, processing, cycles, permit, point, w, reports⟩, calls, traffic,
      worked⟩ := s
    subst hp
    first
      | exact ⟨h.traffic, h.holds, h.work_eq, h.cycles_eq⟩
      | cases running <;> exact ⟨h.traffic, h.holds, h.work_eq, h.cycles_eq⟩
      | cases permit <;> exact ⟨h.traffic, h.holds, h.work_eq, h.cycles_eq⟩

theorem run (h : s.Tallies work worker) (moves : List (Move ε)) :
    (s.run work moves).Tallies work worker := by
  refine run_keeps (P := (Tallies work worker ·)) (fun s c hc hs => hs.begin ?_)
    (fun s place c hc hs => hs.proceed hc) (fun s hs => hs.advance) h moves
  obtain ⟨e, rfl⟩ | rfl := hc <;> rfl

theorem exists_inHand (h : s.Tallies work worker) : ∃ inHand : Option ε,
    s.traffic.taken = s.worked.map Prod.fst ++ inHand.toList ∧
    ∀ e ∈ inHand, s.runner.point = .marking e ∨ s.runner.point = .working e ∨
      s.runner.point = .broken := by
  have hh := h.holds
  cases hp : s.runner.point with
  | marking e =>
    rw [hp] at hh
    exact ⟨some e, hh, by simp⟩
  | working e =>
    rw [hp] at hh
    exact ⟨some e, hh, by simp⟩
  | broken =>
    rw [hp] at hh
    obtain ⟨e, he⟩ := hh
    exact ⟨some e, he, by simp⟩
  | _ =>
    rw [hp] at hh
    exact ⟨none, hh.trans (List.append_nil _).symm, by simp⟩

theorem worked_sublist (h : s.Tallies work worker) :
    (s.worked.map Prod.fst).Sublist s.traffic.pushed := by
  obtain ⟨inHand, ht, -⟩ := h.exists_inHand
  calc
    (s.worked.map Prod.fst).Sublist s.traffic.taken := by
      rw [ht]
      exact List.sublist_append_left ..
    s.traffic.taken.Sublist (s.traffic.departed.map EventQueue.Departure.event) :=
      s.traffic.taken_sublist
    List.Sublist _ s.traffic.pushed := by
      rw [h.traffic.content]
      exact List.sublist_append_left ..

/-- Once no call has an event to count and the task is at its end, every event that came in was worked
on, dropped, or is still there. -/
theorem length_pushed (h : s.Tallies work worker) (hc : Call.count ∉ s.calls)
    (hp : s.runner.point = .ended) :
    s.traffic.pushed.length =
      s.runner.cycles + s.runner.queue.dropped + s.runner.queue.size := by
  have hn : s.calls.countP Call.isCount = 0 := by
    refine List.countP_eq_zero.mpr fun c hm hb => ?_
    cases c with
    | count => exact hc hm
    | _ => cases hb
  have ht : s.traffic.taken = s.worked.map Prod.fst := by
    have hh := h.holds
    rwa [hp] at hh
  have hw : s.runner.cycles = s.worked.length := by
    have hw := h.cycles_eq
    rwa [hp] at hw
  rw [h.traffic.length_pushed, hn, ht, hw, List.length_map]
  rfl

end Tallies

-- A second event comes before the task has taken the first, and there is room for one only.
example :
    let work (sum n : Nat) : Option (Nat × Nat) := some (sum + n, sum + n)
    let moves : List (Move Nat) :=
      [.deliver 3, .deliver 4, .call 0, .call 1, .task, .call 0, .call 1] ++
        List.replicate 5 .task ++ [.call 1, .call 1]
    let s := (Interplay.start 1 0).run work moves
    s.traffic = ⟨[3, 4], [.evicted 3, .taken 4]⟩ ∧ s.worked = [(4, 4)] ∧ s.runner.worker = 4 ∧
      s.runner.queue.dropped = 1 ∧ s.runner.cycles = 1 := by
  decide

end Interplay
end

namespace Agent

variable {π ρ σ τ : Type} [Policy π] [Reward ρ] [Sink σ]

/-- The work of an agent with its surface: one cycle, and what has become of both. -/
def work (surface : Surface (StateM τ)) (stamps : Nat → Stamp) (w : Agent π ρ σ × τ) (tree : Node) :
    Option (Report × Agent π ρ σ × τ) :=
  match w.1.attend surface stamps tree w.2 with
  | (some (report, a), t) => some (report, a, t)
  | (none, _) => none

/-- In whatever order handles and task get their turns: what came in left it in order or is still there,
the agent has worked on some of it in order, on one event at a time, and it is what it would be if it had
been given just these events one by one. Once the agent has stopped and no call has an event to count,
nothing is unaccounted for. -/
theorem works_in_order (queueCapacity : Nat) (surface : Surface (StateM τ)) (stamps : Nat → Stamp)
    (a : Agent π ρ σ) (t : τ) (moves : List (Move Node)) :
    let s := (Interplay.start queueCapacity (a, t)).run (work surface stamps) moves
    let processed := s.worked.map Prod.fst
    s.traffic.pushed = s.traffic.departed.map EventQueue.Departure.event ++ s.runner.queue.items ∧
    processed.Sublist s.traffic.pushed ∧
    (∃ inHand : Option Node, s.traffic.taken = processed ++ inHand.toList ∧
      ∀ e ∈ inHand, s.runner.point = .marking e ∨ s.runner.point = .working e ∨
        s.runner.point = .broken) ∧
    workAll (work surface stamps) (a, t) processed = some (s.worked.map Prod.snd, s.runner.worker) ∧
    (Call.count ∉ s.calls → s.runner.point = .ended → s.traffic.pushed.length =
      s.runner.cycles + s.runner.queue.dropped + s.runner.queue.size) := by
  intro s processed
  have h : s.Tallies (work surface stamps) (a, t) := (Interplay.Tallies.start ..).run moves
  exact ⟨h.traffic.content, h.worked_sublist, h.exists_inHand, h.work_eq, h.length_pushed⟩

end Agent

end ScreenAgent
