import ScreenAgent.Runner.EventQueue

namespace ScreenAgent

inductive Point (ε ρ : Type)
  /-- Before it looks whether the runner still runs. -/
  | checking
  /-- Before it takes an event. -/
  | taking
  /-- Before it listens for a wake-up. -/
  | listening
  /-- Until it is woken up. -/
  | parked
  /-- Before it shows that it is at work on an event. -/
  | marking (event : ε)
  /-- While it is at work on an event. -/
  | working (event : ε)
  /-- Before it shows that it is no longer at work. -/
  | clearing (result : ρ)
  /-- Before it counts the event as done. -/
  | counting (result : ρ)
  /-- Before it reports what came out. -/
  | reporting (result : ρ)
  /-- After the runner was stopped. -/
  | ended
  /-- After the work on an event came to no end. -/
  | broken

/-- A runner: what its task shares with the handles, where the task is, what it works with, and the
reports so far. -/
structure Runner (ω ε ρ : Type) where
  queue : EventQueue ε
  running : Bool
  processing : Bool
  cycles : Nat
  /-- Whether a wake-up is left for the next time the task listens. -/
  permit : Bool
  point : Point ε ρ
  worker : ω
  reports : List ρ

namespace Runner

variable {ω ε ρ : Type}

def start (queueCapacity : Nat) (worker : ω) : Runner ω ε ρ where
  queue := .ofCapacity queueCapacity
  running := true
  processing := false
  cycles := 0
  permit := false
  point := .checking
  worker
  reports := []

/-- Wakes the task up if it is parked; otherwise leaves a wake-up for it, at most one. -/
def notify (r : Runner ω ε ρ) : Runner ω ε ρ :=
  match r.point with
  | .parked => { r with point := .checking }
  | _ => { r with permit := true }

@[simp] theorem notify_queue (r : Runner ω ε ρ) : r.notify.queue = r.queue := by
  unfold notify
  split <;> rfl

@[simp] theorem notify_running (r : Runner ω ε ρ) : r.notify.running = r.running := by
  unfold notify
  split <;> rfl

/-- The next step of the task, apart from the work itself. A task at work, parked or at its end has
none. -/
def advance (r : Runner ω ε ρ) : Option (Runner ω ε ρ) :=
  match r.point with
  | .checking => some { r with point := if r.running then .taking else .ended }
  | .taking =>
    match r.queue.pop with
    | (some e, q) => some { r with queue := q, point := .marking e }
    | (none, q) => some { r with queue := q, point := .listening }
  | .listening =>
    if r.permit then some { r with permit := false, point := .checking }
    else some { r with point := .parked }
  | .marking e => some { r with processing := true, point := .working e }
  | .clearing a => some { r with processing := false, point := .counting a }
  | .counting a => some { r with cycles := r.cycles + 1, point := .reporting a }
  | .reporting a => some { r with reports := r.reports ++ [a], point := .checking }
  | .parked | .working _ | .ended | .broken => none

def resume (r : Runner ω ε ρ) : Option (ρ × ω) → Runner ω ε ρ
  | some (result, worker) => { r with worker, point := .clearing result }
  | none => { r with point := .broken }

/-- How many steps a task at a point has before it at most takes the next event or parks. -/
def Point.rank : Point ε ρ → Nat
  | .marking _ => 8
  | .working _ => 7
  | .clearing _ => 6
  | .counting _ => 5
  | .reporting _ => 4
  | .checking => 3
  | .taking => 2
  | .listening => 1
  | .parked | .ended | .broken => 0

/-- A bound for the steps that are left as long as no handle does anything. -/
def pending (r : Runner ω ε ρ) : Nat :=
  10 * r.queue.items.length + 4 * r.permit.toNat + Point.rank r.point

theorem pending_advance {r s : Runner ω ε ρ} (h : r.advance = some s) : s.pending < r.pending := by
  obtain ⟨⟨items, _, _, _⟩, running, _, _, permit, point, _, _⟩ := r
  cases point <;> simp only [advance, Option.some.injEq, reduceCtorEq] at h
  case taking =>
    cases items with
    | nil => simp [EventQueue.pop] at h; subst h; simp [pending, Point.rank]
    | cons e rest => simp [EventQueue.pop] at h; subst h; simp [pending, Point.rank]; omega
  case listening => cases permit <;> simp at h <;> subst h <;> simp [pending, Point.rank]
  case checking => subst h; cases running <;> simp [pending, Point.rank]
  all_goals subst h; simp [pending, Point.rank]

theorem pending_resume {r : Runner ω ε ρ} {e : ε} (h : r.point = .working e)
    (answer : Option (ρ × ω)) : (r.resume answer).pending < r.pending := by
  cases answer <;> simp [resume, pending, h, Point.rank]

/-- Lets the task go on until it is parked or at its end, with no handle doing anything. -/
def settle {m : Type → Type} [Monad m] (work : ω → ε → m (Option (ρ × ω))) (r : Runner ω ε ρ) :
    m (Runner ω ε ρ) :=
  match _h : r.point with
  | .working e => do
    let answer ← work r.worker e
    settle work (r.resume answer)
  | _ =>
    match _h' : r.advance with
    | some s => settle work s
    | none => pure r
termination_by r.pending
decreasing_by
  · exact pending_resume _h answer
  · exact pending_advance _h'

end Runner

inductive RunnerError
  | stopped
deriving DecidableEq

def RunnerError.message : RunnerError → String
  | stopped => "Agent runner stopped"

inductive Call (ε : Type)
  /-- An event is to be delivered, if the runner still runs. -/
  | deliver (event : ε)
  /-- An event is to be put into the queue. -/
  | push (event : ε)
  /-- The event that was given up is to be counted. -/
  | count
  /-- The runner is to be stopped. -/
  | stop
  /-- The task is to be woken up. -/
  | wake

namespace Call

variable {ω ε ρ : Type}

/-- The next step of a call: what is left of it then, or the answer with which it returns. -/
def step (c : Call ε) (r : Runner ω ε ρ) : (Call ε ⊕ Except RunnerError Unit) × Runner ω ε ρ :=
  match c with
  | deliver e => (if r.running then .inl (push e) else .inr (.error .stopped), r)
  | push e =>
    let (evicted, queue) := r.queue.enqueue e
    (.inl (if evicted.isSome then count else wake), { r with queue })
  | count => (.inl wake, { r with queue := r.queue.countDropped })
  | stop => (.inl wake, { r with running := false })
  | wake => (.inr (.ok ()), r.notify)

def rank : Call ε → Nat
  | deliver _ => 4
  | push _ => 3
  | count | stop => 2
  | wake => 1

theorem rank_step {c d : Call ε} {r s : Runner ω ε ρ} (h : c.step r = (.inl d, s)) :
    d.rank < c.rank := by
  cases c <;> simp only [step, Prod.mk.injEq, Sum.inl.injEq, reduceCtorEq, false_and] at h
  case deliver => split at h <;> simp at h; obtain ⟨rfl, _⟩ := h; simp [rank]
  case push => obtain ⟨rfl, _⟩ := h; split <;> simp [rank]
  all_goals obtain ⟨rfl, _⟩ := h; simp [rank]

/-- Lets a call go on until it returns, with no one else doing anything. -/
def finish (c : Call ε) (r : Runner ω ε ρ) : Except RunnerError Unit × Runner ω ε ρ :=
  match _h : c.step r with
  | (.inl d, s) => d.finish s
  | (.inr answer, s) => (answer, s)
termination_by c.rank
decreasing_by exact rank_step _h

end Call

namespace Runner

variable {ω ε ρ : Type}

def deliver (r : Runner ω ε ρ) (e : ε) : Except RunnerError Unit × Runner ω ε ρ :=
  (Call.deliver e).finish r

def stop (r : Runner ω ε ρ) : Runner ω ε ρ := (Call.stop.finish r).2

end Runner

end ScreenAgent
