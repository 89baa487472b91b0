import ScreenAgent.Agent.Device
import ScreenAgent.Agent.RulePolicy
import ScreenAgent.Archive.Sink
import ScreenAgent.Proofs.Agent.Exchange
import ScreenAgent.Proofs.Runner.Stopping
import ScreenAgent.Runner.Poller

namespace ScreenAgent

section
variable {ω ε ρ : Type}

def Call.incoming : Call ε → Nat
  | .deliver _ | .push _ => 1
  | _ => 0

namespace Poller

def call? : Poller ε → Option (Call ε)
  | delivering c | stopping c => some c
  | _ => none

/-- How many events the loop may still put in before it looks at the count of cycles again. -/
def pledge : Poller ε → Nat
  | .ticking | .looking | .peeking | .dumping => 1
  | .delivering c | .stopping c => c.incoming
  | _ => 0

/-- How many events may wait in the queue. From where the loop has found it empty none comes in but the
loop's own. -/
def backlog : Poller ε → Nat
  | .dumping => 0
  | .delivering c | .stopping c => 1 - c.incoming
  | _ => 1

theorem pledge_le_one (p : Poller ε) : p.pledge ≤ 1 := by
  cases p with
  | delivering c | stopping c => cases c <;> simp [pledge, Call.incoming]
  | _ => simp [pledge]

theorem backlog_le_one (p : Poller ε) : p.backlog ≤ 1 := by
  cases p with
  | delivering c | stopping c => exact Nat.sub_le ..
  | _ => simp [backlog]

/-- A call under way says what the loop still puts in. -/
theorem pledge_of_call {p : Poller ε} {c : Call ε} (hc : p.call? = some c) :
    p.pledge = c.incoming ∧ p.backlog = 1 - c.incoming := by
  cases p <;> cases hc <;> exact ⟨rfl, rfl⟩

variable {p : Poller ε} (limit : Nat) (isLast : ρ → Bool)

theorem step_of_call {c : Call ε} (hc : p.call? = some c) (seen : Option ε) (r : Runner ω ε ρ) :
    ∃ q, p.step limit isLast seen r = some (q, (c.step r).2) ∧ q.call? = (c.step r).1.getLeft? ∧
      q.pledge = (((c.step r).1.getLeft?).map Call.incoming).getD 0 ∧ q.backlog = 1 - q.pledge := by
  cases p <;> cases hc
  case delivering =>
    cases hs : c.step r with
    | mk left t =>
      cases left with
      | inl d => exact ⟨.delivering d, by simp only [step, hs], rfl, rfl, rfl⟩
      | inr answer =>
        cases answer with
        | ok => exact ⟨.testing, by simp only [step, hs], rfl, rfl, rfl⟩
        | error e => exact ⟨.refused e, by simp only [step, hs], rfl, rfl, rfl⟩
  case stopping =>
    cases hs : c.step r with
    | mk left t =>
      cases left with
      | inl d => exact ⟨.stopping d, by simp only [step, hs], rfl, rfl, rfl⟩
      | inr answer => exact ⟨.joining, by simp only [step, hs], rfl, rfl, rfl⟩

/-- The loop without a call under way only looks. It goes for an event if it finds cycles left, and lets
no other wait once it has found the queue empty. -/
theorem step_of_look (hn : p.call? = none) (seen : Option ε) (r : Runner ω ε ρ) :
    p.step limit isLast seen r = none ∨
    ∃ q, p.step limit isLast seen r = some (q, r) ∧
      (q.call? = none ∨ (∃ e, q.call? = some (.deliver e)) ∨ q.call? = some .stop) ∧
      (q.pledge ≤ p.pledge ∨ p = .counting ∧ r.cycles < limit) ∧
      (p.backlog ≤ q.backlog ∨ r.queue.items = []) := by
  cases p with
  | testing =>
    refine .inr ⟨_, rfl, ?_⟩
    split
    · exact ⟨.inr (.inr rfl), .inl (Nat.le_refl _), .inl (Nat.le_refl _)⟩
    · exact ⟨.inl rfl, .inl (Nat.le_refl _), .inl (Nat.le_refl _)⟩
  | counting =>
    refine .inr ⟨_, rfl, ?_⟩
    split
    · exact ⟨.inl rfl, .inr ⟨rfl, ‹_›⟩, .inl (Nat.le_refl _)⟩
    · exact ⟨.inr (.inr rfl), .inl (Nat.le_refl _), .inl (Nat.le_refl _)⟩
  | ticking => exact .inr ⟨_, rfl, .inl rfl, .inl (Nat.le_refl _), .inl (Nat.le_refl _)⟩
  | looking =>
    refine .inr ⟨_, rfl, ?_⟩
    split
    · exact ⟨.inl rfl, .inl (Nat.zero_le _), .inl (Nat.le_refl _)⟩
    · exact ⟨.inl rfl, .inl (Nat.le_refl _), .inl (Nat.le_refl _)⟩
  | peeking =>
    refine .inr ⟨_, rfl, ?_⟩
    split
    · exact ⟨.inl rfl, .inl (Nat.le_refl _), .inr (List.isEmpty_iff.mp ‹_›)⟩
    · exact ⟨.inl rfl, .inl (Nat.zero_le _), .inl (Nat.le_refl _)⟩
  | dumping =>
    cases seen with
    | none => exact .inr ⟨_, rfl, .inl rfl, .inl (Nat.zero_le _), .inl (Nat.zero_le _)⟩
    | some e =>
      exact .inr ⟨_, rfl, .inr (.inl ⟨e, rfl⟩), .inl (Nat.le_refl _), .inl (Nat.le_refl _)⟩
  | joining | refused => exact .inl rfl
  | _ => cases hn

end Poller

/-- How many events the task has taken and not counted yet. -/
def Point.inHand : Point ε ρ → Nat
  | .marking _ | .working _ | .clearing _ | .counting _ | .broken => 1
  | _ => 0

theorem Point.inHand_le_one (p : Point ε ρ) : p.inHand ≤ 1 := by
  cases p <;> simp [inHand]

namespace Interplay

variable {s : Interplay ω ε ρ} {work : ω → ε → Option (ρ × ω)}

theorem advance_queue (work : ω → ε → Option (ρ × ω)) (s : Interplay ω ε ρ) :
    ((s.advance work).traffic = s.traffic ∧ (s.advance work).runner.queue = s.runner.queue) ∨
    ((s.advance work).traffic = s.traffic.pop s.runner.queue.pop.1 ∧
      (s.advance work).runner.queue = s.runner.queue.pop.2) := by
  obtain ⟨⟨queue, running, processing, cycles, permit, point, w, reports⟩, calls, traffic,
    worked⟩ := s
  cases point with
  | taking =>
    obtain ⟨-, hq⟩ | ⟨e, rest, -, hq⟩ := queue.pop_cases <;>
      exact .inr (by simp [advance, Runner.advance, hq])
  | listening => cases permit <;> exact .inl ⟨rfl, rfl⟩
  | working e => cases hw : work w e <;> exact .inl (by simp [advance, Runner.resume, hw])
  | _ => exact .inl ⟨rfl, rfl⟩

theorem proceed_queue (s : Interplay ω ε ρ) (place : Nat) {c : Call ε} (hc : ∀ e, c ≠ .push e) :
    (s.proceed place c).traffic = s.traffic ∧
      (s.proceed place c).runner.queue.items = s.runner.queue.items := by
  cases c with
  | push e => exact absurd rfl (hc e)
  | wake => exact ⟨rfl, congrArg EventQueue.items s.runner.notify_queue⟩
  | _ => exact ⟨rfl, rfl⟩

theorem Tallies.length_taken_le {worker : ω} (h : s.Tallies work worker) :
    s.traffic.taken.length ≤ s.traffic.pushed.length := by
  have hp := h.traffic.length_pushed
  omega

theorem Tallies.length_taken {worker : ω} (h : s.Tallies work worker) :
    s.traffic.taken.length = s.runner.cycles + s.runner.point.inHand := by
  have hc := h.cycles_eq
  have hh := h.holds
  cases hp : s.runner.point <;> rw [hp] at hc hh <;> simp only [Point.uncounted] at hc
  case broken =>
    obtain ⟨e, he⟩ := hh
    rw [he, List.length_append, List.length_map, ← hc]
    rfl
  case marking e | working e =>
    rw [show s.traffic.taken = _ from hh, List.length_append, List.length_map, ← hc]
    rfl
  all_goals
    rw [show s.traffic.taken = _ from hh, List.length_map, ← hc]
    rfl

end Interplay

/-- A loop that feeds a runner, and what the runner and its task have come to. -/
structure Pursuit (ω ε ρ : Type) where
  poller : Poller ε := .testing
  play : Interplay ω ε ρ

namespace Pursuit

inductive Beat (ε : Type)
  /-- The loop; a look at the screen would show it this. -/
  | poll (seen : Option ε)
  /-- The session is interrupted. -/
  | interrupt
  | task

def start (queueCapacity : Nat) (worker : ω) : Pursuit ω ε ρ :=
  { play := .start queueCapacity worker }

variable (limit : Nat) (isLast : ρ → Bool) (work : ω → ε → Option (ρ × ω))

/-- The next step of the loop. It makes one call at a time. -/
def poll (seen : Option ε) (s : Pursuit ω ε ρ) : Pursuit ω ε ρ :=
  match s.poller.step limit isLast seen s.play.runner with
  | none => s
  | some (p, r) =>
    { poller := p
      play := { s.play with
        runner := r
        calls := p.call?.toList
        traffic := match s.poller.call? with
          | some (.push e) => s.play.traffic.push e (s.play.runner.queue.enqueue e).1
          | _ => s.play.traffic } }

def interrupt (s : Pursuit ω ε ρ) : Pursuit ω ε ρ :=
  { poller := s.poller.interrupt
    play := { s.play with calls := s.poller.interrupt.call?.toList } }

def task (s : Pursuit ω ε ρ) : Pursuit ω ε ρ := { s with play := s.play.advance work }

def beat (s : Pursuit ω ε ρ) : Beat ε → Pursuit ω ε ρ
  | .poll seen => s.poll limit isLast seen
  | .interrupt => s.interrupt
  | .task => s.task work

def run (s : Pursuit ω ε ρ) (beats : List (Beat ε)) : Pursuit ω ε ρ :=
  beats.foldl (beat limit isLast work) s

variable {limit isLast work} {s : Pursuit ω ε ρ}

theorem run_keeps {P : Pursuit ω ε ρ → Prop} (polls : ∀ s seen, P s → P (s.poll limit isLast seen))
    (interrupts : ∀ s, P s → P s.interrupt) (tasks : ∀ s, P s → P (s.task work)) (h : P s)
    (beats : List (Beat ε)) : P (s.run limit isLast work beats) := by
  induction beats generalizing s with
  | nil => exact h
  | cons b beats ih =>
    apply ih
    cases b with
    | poll seen => exact polls s seen h
    | interrupt => exact interrupts s h
    | task => exact tasks s h

/-- The call of the loop is the only one that is under way. -/
def Single (s : Pursuit ω ε ρ) : Prop := s.play.calls = s.poller.call?.toList

theorem single_start (queueCapacity : Nat) (worker : ω) :
    (start queueCapacity worker : Pursuit ω ε ρ).Single := rfl

theorem Single.poll (h : s.Single) (seen : Option ε) : (s.poll limit isLast seen).Single := by
  unfold Pursuit.poll
  split
  · exact h
  · rfl

theorem Single.interrupt (s : Pursuit ω ε ρ) : s.interrupt.Single := rfl

theorem Single.task (h : s.Single) : (s.task work).Single := s.play.calls_advance.trans h

/-- A call of the loop goes on as a call of a handle does. -/
theorem Single.play_poll (h : s.Single) {c : Call ε} (hc : s.poller.call? = some c)
    (seen : Option ε) : (s.poll limit isLast seen).play = s.play.proceed 0 c := by
  obtain ⟨q, hs, hq, -⟩ := Poller.step_of_call limit isLast hc seen s.play.runner
  have hl : s.play.calls = [c] := by rw [h, hc]; rfl
  simp only [Pursuit.poll, hs, hc, hq, Interplay.proceed, hl]
  cases c <;> simp

/-- A step of the loop is what a handle might do, or nothing. -/
theorem Single.exists_moves_poll (h : s.Single) (seen : Option ε) :
    ∃ moves, (s.poll limit isLast seen).play = s.play.run work moves := by
  cases hc : s.poller.call? with
  | some c =>
    have hl : s.play.calls[0]? = some c := by rw [h, hc]; rfl
    refine ⟨[.call 0], (h.play_poll hc seen).trans ?_⟩
    simp [Interplay.run, Interplay.move, hl]
  | none =>
    have hl : s.play.calls = [] := by rw [h, hc]; rfl
    obtain hs | ⟨q, hs, hq, -⟩ := Poller.step_of_look limit isLast hc seen s.play.runner
    · exact ⟨[], by simp [Pursuit.poll, hs]; rfl⟩
    · have hp : (s.poll limit isLast seen).play = { s.play with calls := q.call?.toList } := by
        simp only [Pursuit.poll, hs, hc]
      rw [hp]
      obtain hq | ⟨e, hq⟩ | hq := hq
      · exact ⟨[], by simp [hq, ← hl]; rfl⟩
      · exact ⟨[.deliver e], by simp [hq, Interplay.run, Interplay.move, hl]⟩
      · exact ⟨[.stop], by simp [hq, Interplay.run, Interplay.move, hl]⟩

theorem Single.exists_moves_interrupt (h : s.Single) :
    ∃ moves, s.interrupt.play = s.play.run work moves := by
  obtain ⟨p, ⟨runner, calls, traffic, worked⟩⟩ := s
  obtain rfl : calls = p.call?.toList := h
  cases p with
  | ticking => exact ⟨[.stop], rfl⟩
  | _ => exact ⟨[], rfl⟩

/-- What is said of every interplay may be said of a pursuit. -/
theorem Single.exists_moves (limit : Nat) (isLast : ρ → Bool) (work : ω → ε → Option (ρ × ω))
    (h : s.Single) (beats : List (Beat ε)) :
    ∃ moves, (s.run limit isLast work beats).play = s.play.run work moves := by
  have hstep : ∀ u v : Pursuit ω ε ρ, (∃ more, v.play = u.play.run work more) →
      (∃ moves, u.play = s.play.run work moves) → ∃ moves, v.play = s.play.run work moves := by
    rintro u v ⟨more, hv⟩ ⟨moves, hu⟩
    refine ⟨moves ++ more, ?_⟩
    rw [hv, hu, Interplay.run_append]
  have hrun : (s.run limit isLast work beats).Single ∧
      ∃ moves, (s.run limit isLast work beats).play = s.play.run work moves := by
    apply run_keeps (P := fun u => u.Single ∧ ∃ moves, u.play = s.play.run work moves)
    case polls =>
      intro u seen hu
      exact ⟨hu.1.poll seen, hstep _ _ (hu.1.exists_moves_poll seen) hu.2⟩
    case interrupts =>
      intro u hu
      exact ⟨.interrupt u, hstep _ _ hu.1.exists_moves_interrupt hu.2⟩
    case tasks =>
      intro u hu
      exact ⟨hu.1.task, hstep _ _ ⟨[.task], rfl⟩ hu.2⟩
    case h => exact ⟨h, [], rfl⟩
  exact hrun.2

theorem tallies (queueCapacity : Nat) (worker : ω) (beats : List (Beat ε)) :
    ((start queueCapacity worker).run limit isLast work beats).play.Tallies work worker := by
  obtain ⟨moves, hm⟩ := (single_start queueCapacity worker).exists_moves limit isLast work beats
  rw [hm]
  exact (Interplay.Tallies.start ..).run moves

theorem Single.poll_push (limit : Nat) (isLast : ρ → Bool) (h : s.Single) {e : ε}
    (hc : s.poller.call? = some (.push e)) (seen : Option ε) :
    let t := s.poll limit isLast seen
    t.poller.pledge = 0 ∧ t.poller.backlog = 1 ∧
      t.play.traffic = s.play.traffic.push e (s.play.runner.queue.enqueue e).1 ∧
      t.play.runner.queue = (s.play.runner.queue.enqueue e).2 := by
  intro t
  have hp : t.play = s.play.proceed 0 (.push e) := h.play_poll hc seen
  obtain ⟨q, hs, -, hl, hb⟩ := Poller.step_of_call limit isLast hc seen s.play.runner
  have hq : t.poller = q := by simp only [t, Pursuit.poll, hs]
  have hz : q.pledge = 0 := by
    rw [hl]
    simp only [Call.step]
    split <;> rfl
  rw [hq, hp, hb, hz]
  exact ⟨rfl, rfl, rfl, rfl⟩

theorem Single.poll_quiet (limit : Nat) (isLast : ρ → Bool) (h : s.Single)
    (hn : ∀ e, s.poller.call? ≠ some (.push e)) (seen : Option ε) :
    let t := s.poll limit isLast seen
    t.play.traffic = s.play.traffic ∧ t.play.runner.queue.items = s.play.runner.queue.items ∧
      (t.poller.pledge ≤ s.poller.pledge ∨
        s.poller = .counting ∧ s.play.runner.cycles < limit) ∧
      (s.poller.backlog ≤ t.poller.backlog ∨ s.play.runner.queue.items = []) := by
  intro t
  cases hc : s.poller.call? with
  | none =>
    obtain hs | ⟨q, hs, -, hl, hb⟩ := Poller.step_of_look limit isLast hc seen s.play.runner
    · have ht : t = s := by simp only [t, Pursuit.poll, hs]
      rw [ht]
      exact ⟨rfl, rfl, .inl (Nat.le_refl _), .inl (Nat.le_refl _)⟩
    · have ht : t = ⟨q, { s.play with calls := q.call?.toList }⟩ := by
        simp only [t, Pursuit.poll, hs, hc]
      rw [ht]
      exact ⟨rfl, rfl, hl, hb⟩
  | some c =>
    have hp : t.play = s.play.proceed 0 c := h.play_poll hc seen
    obtain ⟨q, hs, -, hl, hb⟩ := Poller.step_of_call limit isLast hc seen s.play.runner
    have hq : t.poller = q := by simp only [t, Pursuit.poll, hs]
    have hi := Poller.pledge_of_call hc
    have hle : q.pledge ≤ c.incoming := by
      rw [hl]
      cases c with
      | deliver e =>
        simp only [Call.step]
        split <;> simp [Call.incoming]
      | push e => exact absurd hc (hn e)
      | _ => exact Nat.le_refl _
    have hsame : ∀ e, c ≠ .push e := fun e he => hn e (he ▸ hc)
    obtain ⟨ht, hitems⟩ := s.play.proceed_queue 0 hsame
    rw [hq, hp, hb, hi.1, hi.2]
    exact ⟨ht, hitems, .inl hle, .inl (Nat.sub_le_sub_left hle 1)⟩

/-- The loop makes one call at a time, and no event is given up for another. -/
structure Steady (s : Pursuit ω ε ρ) : Prop where
  single : s.Single
  evicted : s.play.traffic.evicted = []
  queued : s.play.runner.queue.items.length ≤ s.poller.backlog

namespace Steady

theorem start (queueCapacity : Nat) (worker : ω) :
    (Pursuit.start queueCapacity worker : Pursuit ω ε ρ).Steady where
  single := rfl
  evicted := rfl
  queued := Nat.zero_le _

/-- The loop puts an event into an empty queue only. -/
theorem poll (h : s.Steady) (seen : Option ε) : (s.poll limit isLast seen).Steady := by
  have hs : (s.poll limit isLast seen).Single := h.single.poll seen
  have hq := h.queued
  by_cases hc : ∃ e, s.poller.call? = some (.push e)
  · obtain ⟨e, hc⟩ := hc
    obtain ⟨-, hb, ht, hi⟩ := h.single.poll_push limit isLast hc seen
    have hnil : s.play.runner.queue.items = [] := by
      rw [(Poller.pledge_of_call hc).2] at hq
      exact List.eq_nil_of_length_eq_zero (Nat.le_zero.mp hq)
    obtain ⟨-, he⟩ | ⟨oldest, rest, ho, -⟩ := s.play.runner.queue.enqueue_cases e
    · refine ⟨hs, ?_, ?_⟩
      · rw [ht, he]
        simpa using h.evicted
      · rw [hi, hb, he, hnil]
        exact Nat.le_refl 1
    · rw [hnil] at ho
      cases ho
  · obtain ⟨ht, hi, -, hb⟩ := h.single.poll_quiet limit isLast (not_exists.mp hc) seen
    refine ⟨hs, ht ▸ h.evicted, ?_⟩
    rw [hi]
    obtain hb | hnil := hb
    · exact hq.trans hb
    · rw [hnil]
      exact Nat.zero_le _

theorem interrupt (h : s.Steady) : s.interrupt.Steady where
  single := rfl
  evicted := h.evicted
  queued := by
    have hq := h.queued
    obtain ⟨p, play⟩ := s
    cases p <;> exact hq

theorem task (h : s.Steady) : (s.task work).Steady where
  single := h.single.task
  evicted := by
    change (s.play.advance work).traffic.evicted = []
    obtain ⟨ht, -⟩ | ⟨ht, -⟩ := s.play.advance_queue work
    · rw [ht]
      exact h.evicted
    · rw [ht, EventQueue.Traffic.evicted_pop]
      exact h.evicted
  queued := by
    change (s.play.advance work).runner.queue.items.length ≤ s.poller.backlog
    have hq := h.queued
    obtain ⟨-, hi⟩ | ⟨-, hi⟩ := s.play.advance_queue work
    · rw [hi]
      exact hq
    · have hl : s.play.runner.queue.pop.2.items.length ≤ s.play.runner.queue.items.length := by
        simp [EventQueue.pop]
      rw [hi]
      exact hl.trans hq

theorem run (h : s.Steady) (beats : List (Beat ε)) : (s.run limit isLast work beats).Steady :=
  run_keeps (fun _ seen hs => hs.poll seen) (fun _ hs => hs.interrupt) (fun _ hs => hs.task) h beats

end Steady

/-- What has come in is counted, but for one event in hand and one that waits. -/
theorem Steady.length_pushed_le {worker : ω} (h : s.Steady) (ht : s.play.Tallies work worker) :
    s.play.traffic.pushed.length ≤ s.play.runner.cycles + 2 := by
  have hcount := ht.traffic.counted
  have hpushed := ht.traffic.length_pushed
  rw [hcount, h.evicted, List.length_nil, Nat.add_zero] at hpushed
  have htaken := ht.length_taken
  have hhand := s.play.runner.point.inHand_le_one
  have hqueue : s.play.runner.queue.items.length ≤ 1 := h.queued.trans s.poller.backlog_le_one
  omega

/-- There is room under a bound for what has come in and what the loop still puts in. -/
def Within (bound : Nat) (s : Pursuit ω ε ρ) : Prop :=
  s.play.traffic.pushed.length + s.poller.pledge ≤ bound

namespace Within

variable {bound : Nat}

/-- A step of the loop keeps to a bound that leaves room for one more event whenever the loop finds
cycles left. -/
theorem poll (h : s.Within bound) (hs : s.Single)
    (hroom : s.poller = .counting → s.play.runner.cycles < limit →
      s.play.traffic.pushed.length < bound)
    (seen : Option ε) : (s.poll limit isLast seen).Within bound := by
  unfold Within at h ⊢
  by_cases hc : ∃ e, s.poller.call? = some (.push e)
  · obtain ⟨e, hc⟩ := hc
    obtain ⟨hp, -, ht, -⟩ := hs.poll_push limit isLast hc seen
    have hone : s.poller.pledge = 1 := (Poller.pledge_of_call hc).1
    rw [ht, hp, EventQueue.Traffic.pushed_push, List.length_append, List.length_singleton]
    omega
  · obtain ⟨ht, -, hp, -⟩ := hs.poll_quiet limit isLast (not_exists.mp hc) seen
    rw [ht]
    obtain hp | ⟨hcounting, hleft⟩ := hp
    · omega
    · have hlt := hroom hcounting hleft
      have hone := (s.poll limit isLast seen).poller.pledge_le_one
      omega

theorem interrupt (h : s.Within bound) : s.interrupt.Within bound := by
  obtain ⟨p, play⟩ := s
  cases p with
  | ticking => exact (Nat.le_succ _).trans h
  | _ => exact h

theorem task (h : s.Within bound) : (s.task work).Within bound := by
  obtain ⟨ht, -⟩ | ⟨ht, -⟩ := s.play.advance_queue work
  · simpa [Within, Pursuit.task, ht] using h
  · simpa [Within, Pursuit.task, ht] using h

theorem run (h : s.Within bound) (hs : s.Single) (beats : List (Beat ε))
    (hroom : ∀ earlier, earlier <+: beats →
      let u := s.run limit isLast work earlier
      u.poller = .counting → u.play.runner.cycles < limit → u.play.traffic.pushed.length < bound) :
    (s.run limit isLast work beats).Within bound := by
  induction beats generalizing s with
  | nil => exact h
  | cons b beats ih =>
    have hnow := hroom [] List.nil_prefix
    have hlater (earlier : List (Beat ε)) (he : earlier <+: beats) :=
      hroom (b :: earlier) (List.cons_prefix_cons.mpr ⟨rfl, he⟩)
    cases b with
    | poll seen => exact ih (h.poll hs hnow seen) (hs.poll seen) hlater
    | interrupt => exact ih h.interrupt (.interrupt s) hlater
    | task => exact ih h.task hs.task hlater

end Within

end Pursuit
end

namespace Agent

variable {π ρ σ τ : Type} [Policy π] [Reward ρ] [Sink σ]

theorem cycles_work {surface : Surface (StateM τ)} {stamps : Nat → Stamp} {w v : Agent π ρ σ × τ}
    {tree : Node} {report : Report} (h : work surface stamps w tree = some (report, v)) :
    v.1.cycles = w.1.cycles + 1 := by
  obtain ⟨a, t⟩ := w
  have hon : ((a.cycle (stamps a.cycles) (some tree)).on surface t).1 = some (report, v.1) := by
    simp only [work, attend] at h
    split at h
    · cases h
      simp [*]
    · cases h
  obtain ⟨es, hr⟩ := Plan.runs_of_on surface _ t _ hon
  obtain ⟨o, -, hc⟩ := Plan.runs_map hr
  rw [← (Prod.mk.inj hc).2]

theorem cycles_workAll {surface : Surface (StateM τ)} {stamps : Nat → Stamp}
    {w v : Agent π ρ σ × τ} {trees : List Node} {reports : List Report}
    (h : workAll (work surface stamps) w trees = some (reports, v)) :
    v.1.cycles = w.1.cycles + trees.length := by
  induction trees generalizing w reports with
  | nil =>
    cases h
    rfl
  | cons tree trees ih =>
    obtain ⟨⟨report, u⟩, hw, hr⟩ := Option.bind_eq_some_iff.mp h
    obtain ⟨⟨more, x⟩, hs, hp⟩ := Option.map_eq_some_iff.mp hr
    cases hp
    have hfirst := cycles_work hw
    have hrest := ih hs
    rw [hrest, hfirst, List.length_cons]
    omega

/-- In whatever order the loop and the task get their turns, and whenever the session is interrupted: the
agent works on nothing but what the task takes, and that is two events more than the limit at most, and
none if the limit is zero. It goes past the limit by no more than the events that came in and are not
counted yet when the loop looks at the count. -/
theorem cycles_near_limit (queueCapacity limit : Nat) (surface : Surface (StateM τ))
    (stamps : Nat → Stamp) (a : Agent π ρ σ) (t : τ) (beats : List (Pursuit.Beat Node)) :
    let reached (beats : List (Pursuit.Beat Node)) :=
      (Pursuit.start queueCapacity (a, t)).run limit Report.policyComplete (work surface stamps) beats
    let s := (reached beats).play
    s.worked.length ≤ s.traffic.taken.length ∧
    s.runner.worker.1.cycles = a.cycles + s.worked.length ∧
    s.traffic.taken.length ≤ limit + 2 ∧
    (limit = 0 → s.traffic.taken = []) ∧
    ∀ lag, (∀ earlier, earlier <+: beats → (reached earlier).poller = .counting →
        (reached earlier).play.traffic.pushed.length ≤
          (reached earlier).play.runner.cycles + lag) →
      s.traffic.taken.length ≤ limit + lag := by
  intro reached s
  have hsteady (beats : List (Pursuit.Beat Node)) : (reached beats).Steady :=
    (Pursuit.Steady.start queueCapacity (a, t)).run beats
  have htallies (beats : List (Pursuit.Beat Node)) :
      (reached beats).play.Tallies (work surface stamps) (a, t) :=
    Pursuit.tallies queueCapacity (a, t) beats
  have hpushed : s.traffic.taken.length ≤ s.traffic.pushed.length :=
    (htallies beats).length_taken_le
  have hwithin (bound : Nat) (hroom : ∀ earlier, earlier <+: beats →
      (reached earlier).poller = .counting → (reached earlier).play.runner.cycles < limit →
        (reached earlier).play.traffic.pushed.length < bound) :
      s.traffic.taken.length ≤ bound := by
    have hstart : (reached []).Within bound := Nat.zero_le bound
    have hw : (reached beats).Within bound :=
      hstart.run (Pursuit.single_start queueCapacity (a, t)) beats hroom
    exact hpushed.trans ((Nat.le_add_right _ _).trans hw)
  refine ⟨?_, ?_, ?_, ?_, ?_⟩
  · obtain ⟨inHand, hi, -⟩ := (htallies beats).exists_inHand
    rw [hi, List.length_append, List.length_map]
    exact Nat.le_add_right ..
  · have hc := cycles_workAll (htallies beats).work_eq
    rwa [List.length_map] at hc
  · refine hwithin _ fun earlier _ _ hleft => ?_
    have hle := (hsteady earlier).length_pushed_le (htallies earlier)
    omega
  · intro hzero
    refine List.eq_nil_of_length_eq_zero (Nat.le_zero.mp (hwithin 0 fun earlier _ _ hleft => ?_))
    omega
  · intro lag hlag
    refine hwithin _ fun earlier he hcounting hleft => ?_
    have hle := hlag earlier he hcounting
    omega

/-- For a limit of one there may be three cycles: one event is marked between the two looks of the loop
for it, and the next is taken before the stop. -/
theorem cycles_past_limit :
    ¬ ∀ (goal : Goal) (device : Device) (queueCapacity limit : Nat)
      (beats : List (Pursuit.Beat Node)),
      let a := ofConfig {} (RulePolicy.ofGoal goal) ShapedReward.mk (none : Option Archive)
      let s := (Pursuit.start queueCapacity (a, device)).run limit Report.policyComplete
        (work Device.surface fun _ => {}) beats
      s.play.worked.length ≤ limit := by
  intro h
  let poll : Pursuit.Beat Node := .poll (some (.ofClass "x"))
  let delivery := List.replicate 9 poll
  have hle := h ⟨[⟨.byId "go", .click⟩]⟩ {} 1 1
    (delivery ++ [.task, .task] ++ delivery ++ [poll, poll, poll] ++ List.replicate 3 .task ++ [poll] ++
      List.replicate 4 .task ++ List.replicate 7 poll ++ List.replicate 6 .task ++ [poll, poll] ++
      List.replicate 3 .task)
  exact absurd hle (by decide +kernel)

end Agent

end ScreenAgent
