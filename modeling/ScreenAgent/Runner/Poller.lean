import ScreenAgent.Runner.Basic

namespace ScreenAgent

inductive Poller (ε : Type)
  /-- Before it looks whether the goal is reached. -/
  | testing
  /-- Before it looks how many cycles are counted. -/
  | counting
  /-- While it waits for the clock. -/
  | ticking
  /-- Before it looks whether an event is worked on. -/
  | looking
  /-- Before it looks whether an event waits. -/
  | peeking
  /-- Before it looks at the screen. -/
  | dumping
  | delivering (call : Call ε)
  | stopping (call : Call ε)
  /-- After it has stopped the runner. -/
  | joining
  /-- After an event was not taken in. -/
  | refused (error : RunnerError)

namespace Poller

variable {ω ε ρ : Type}

/-- The next step; `seen` is what a look at the screen would show. The goal is reached when a report
tells so. -/
def step (limit : Nat) (isLast : ρ → Bool) (seen : Option ε) (p : Poller ε) (r : Runner ω ε ρ) :
    Option (Poller ε × Runner ω ε ρ) :=
  match p with
  | testing => some (if r.reports.any isLast then stopping .stop else counting, r)
  | counting => some (if r.cycles < limit then ticking else stopping .stop, r)
  | ticking => some (looking, r)
  | looking => some (if r.processing then testing else peeking, r)
  | peeking => some (if r.queue.isEmpty then dumping else testing, r)
  | dumping =>
    match seen with
    | some e => some (delivering (.deliver e), r)
    | none => some (testing, r)
  | delivering c =>
    match c.step r with
    | (.inl c, r) => some (delivering c, r)
    | (.inr (.ok ()), r) => some (testing, r)
    | (.inr (.error e), r) => some (refused e, r)
  | stopping c =>
    match c.step r with
    | (.inl c, r) => some (stopping c, r)
    | (.inr _, r) => some (joining, r)
  | joining | refused _ => none

/-- An interruption is heeded while the loop waits for the clock. -/
def interrupt : Poller ε → Poller ε
  | ticking => stopping .stop
  | p => p

end Poller

end ScreenAgent
