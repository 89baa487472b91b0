import Mathlib.Data.List.DropRight
import ScreenAgent.Runner.EventQueue

namespace ScreenAgent.EventQueue

variable {ε : Type}

/-- An event that left a queue: it was taken out, or given up for a later one. -/
inductive Departure (ε : Type)
  | taken (event : ε)
  | evicted (event : ε)
deriving DecidableEq

namespace Departure

def event : Departure ε → ε
  | taken e => e
  | evicted e => e

def taken? : Departure ε → Option ε
  | taken e => some e
  | evicted _ => none

def evicted? : Departure ε → Option ε
  | taken _ => none
  | evicted e => some e

end Departure

/-- What came into a queue, and what left it. -/
structure Traffic (ε : Type) where
  pushed : List ε := []
  departed : List (Departure ε) := []
deriving DecidableEq

namespace Traffic

def taken (t : Traffic ε) : List ε := t.departed.filterMap Departure.taken?

def evicted (t : Traffic ε) : List ε := t.departed.filterMap Departure.evicted?

def push (t : Traffic ε) (e : ε) (evicted : Option ε) : Traffic ε :=
  ⟨t.pushed ++ [e], t.departed ++ (evicted.map Departure.evicted).toList⟩

def pop (t : Traffic ε) (taken : Option ε) : Traffic ε :=
  { t with departed := t.departed ++ (taken.map Departure.taken).toList }

variable (t : Traffic ε)

@[simp] theorem pushed_push (e : ε) (evicted : Option ε) :
    (t.push e evicted).pushed = t.pushed ++ [e] := rfl

@[simp] theorem pushed_pop (taken : Option ε) : (t.pop taken).pushed = t.pushed := rfl

@[simp] theorem events_push (e : ε) (evicted : Option ε) :
    (t.push e evicted).departed.map Departure.event =
      t.departed.map Departure.event ++ evicted.toList := by
  cases evicted <;> simp [push, Departure.event]

@[simp] theorem events_pop (taken : Option ε) :
    (t.pop taken).departed.map Departure.event = t.departed.map Departure.event ++ taken.toList := by
  cases taken <;> simp [pop, Departure.event]

@[simp] theorem taken_push (e : ε) (evicted : Option ε) : (t.push e evicted).taken = t.taken := by
  cases evicted <;> simp [push, taken, Departure.taken?]

@[simp] theorem taken_pop (taken : Option ε) : (t.pop taken).taken = t.taken ++ taken.toList := by
  cases taken <;> simp [pop, Traffic.taken, Departure.taken?]

@[simp] theorem evicted_push (e : ε) (evicted : Option ε) :
    (t.push e evicted).evicted = t.evicted ++ evicted.toList := by
  cases evicted <;> simp [push, Traffic.evicted, Departure.evicted?]

@[simp] theorem evicted_pop (taken : Option ε) : (t.pop taken).evicted = t.evicted := by
  cases taken <;> simp [pop, evicted, Departure.evicted?]

theorem length_departed : t.departed.length = t.taken.length + t.evicted.length := by
  unfold taken evicted
  induction t.departed with
  | nil => rfl
  | cons d departed ih =>
    cases d <;> simp [List.filterMap_cons, Departure.taken?, Departure.evicted?, ih] <;> omega

theorem taken_sublist : t.taken.Sublist (t.departed.map Departure.event) := by
  unfold taken
  induction t.departed with
  | nil => exact .slnil
  | cons d departed ih =>
    cases d with
    | taken e => exact ih.cons_cons e
    | evicted e => exact ih.cons e

end Traffic

theorem enqueue_cases (q : EventQueue ε) (e : ε) :
    (q.items.length < q.capacity ∧ q.enqueue e = (none, { q with items := q.items ++ [e] })) ∨
    (∃ oldest rest, q.items = oldest :: rest ∧ q.capacity ≤ q.items.length ∧
      q.enqueue e = (some oldest, { q with items := rest ++ [e] })) := by
  unfold enqueue
  by_cases h : q.items.length < q.capacity
  · exact .inl ⟨h, if_pos h⟩
  · have hc := q.capacity_pos
    cases hi : q.items with
    | nil =>
      rw [hi, List.length_nil] at h
      omega
    | cons oldest rest =>
      rw [hi] at h
      exact .inr ⟨oldest, rest, rfl, by omega, if_neg h⟩

theorem capacity_enqueue (q : EventQueue ε) (e : ε) :
    (q.enqueue e).2.capacity = q.capacity := by
  obtain ⟨-, he⟩ | ⟨oldest, rest, -, -, he⟩ := q.enqueue_cases e <;> rw [he]

theorem pop_cases (q : EventQueue ε) :
    (q.items = [] ∧ q.pop = (none, q)) ∨
    (∃ oldest rest, q.items = oldest :: rest ∧
      q.pop = (some oldest, { q with items := rest })) := by
  obtain ⟨items, capacity, dropped, pos⟩ := q
  cases items with
  | nil => exact .inl ⟨rfl, rfl⟩
  | cons oldest rest => exact .inr ⟨oldest, rest, rfl, rfl⟩

theorem rtake_of_length_le {n : Nat} {l : List ε} (h : l.length ≤ n) : l.rtake n = l := by
  rw [List.rtake, Nat.sub_eq_zero_of_le h, List.drop_zero]

theorem tail_rtake {n : Nat} {l : List ε} (h : n < l.length) :
    (l.rtake (n + 1)).tail = l.rtake n := by
  have hn : l.length - (n + 1) + 1 = l.length - n := by omega
  rw [List.rtake, List.tail_drop, hn, List.rtake]

theorem length_rtake (n : Nat) (l : List ε) : (l.rtake n).length = min n l.length := by
  rw [List.rtake, List.length_drop]
  omega

/-- A queue against its traffic. A push may have given an event up and not have counted it yet; there are
so many of these. -/
structure Traffic.Tallies (t : Traffic ε) (q : EventQueue ε) (uncounted : Nat) : Prop where
  /-- Nothing gets lost, and nothing overtakes. -/
  content : t.pushed = t.departed.map Departure.event ++ q.items
  room : q.items.length ≤ q.capacity
  counted : q.dropped + uncounted = t.evicted.length
  /-- As long as nothing is taken out, the latest events are there. -/
  latest : t.taken = [] → q.items = t.pushed.rtake q.capacity

namespace Traffic.Tallies

variable {t : Traffic ε} {q : EventQueue ε} {uncounted : Nat}

theorem start (capacity : Nat) : ({} : Traffic ε).Tallies (.ofCapacity capacity) 0 where
  content := rfl
  room := Nat.zero_le _
  counted := rfl
  latest := fun _ => by simp [ofCapacity]

theorem enqueue (h : t.Tallies q uncounted) (e : ε) :
    (t.push e (q.enqueue e).1).Tallies (q.enqueue e).2
      (uncounted + (q.enqueue e).1.toList.length) := by
  obtain ⟨hr, he⟩ | ⟨oldest, rest, hi, hf, he⟩ := q.enqueue_cases e
  · rw [he]
    exact {
      content := by simp [h.content]
      room := by simpa [Nat.succ_le_iff] using hr
      counted := by simpa using h.counted
      latest := fun hn => by
        -- nothing had to be given up so far, so all that came in is there
        have hl := h.latest (by simpa using hn)
        have hs : t.pushed.length < q.capacity := by
          rw [hl, length_rtake] at hr
          omega
        have hall : q.items = t.pushed := hl.trans (rtake_of_length_le (Nat.le_of_lt hs))
        rw [hall, pushed_push, rtake_of_length_le]
        simpa [Nat.succ_le_iff] using hs }
  · rw [he]
    have hroom := h.room
    rw [hi, List.length_cons] at hf hroom
    exact {
      content := by simp [h.content, hi]
      room := by simpa using hroom
      counted := by simp [← h.counted, Nat.add_assoc]
      latest := fun hn => by
        have hl := h.latest (by simpa using hn)
        obtain ⟨room, hc⟩ : ∃ room, q.capacity = room + 1 := ⟨q.capacity - 1, by omega⟩
        have hs : room < t.pushed.length := by
          have hlen := congrArg List.length hl
          rw [length_rtake, hi, List.length_cons] at hlen
          omega
        -- the oldest of the latest makes room for the new one
        have hrest : rest = t.pushed.rtake room := by
          rw [← tail_rtake hs, ← hc, ← hl, hi, List.tail_cons]
        change rest ++ [e] = (t.pushed ++ [e]).rtake q.capacity
        rw [hc, List.rtake_concat_succ, ← hrest] }

theorem count (h : t.Tallies q (uncounted + 1)) : t.Tallies q.countDropped uncounted where
  content := h.content
  room := h.room
  counted := by
    rw [← h.counted, countDropped]
    exact Nat.succ_add_eq_add_succ ..
  latest := h.latest

theorem pop (h : t.Tallies q uncounted) : (t.pop q.pop.1).Tallies q.pop.2 uncounted := by
  obtain ⟨hi, he⟩ | ⟨oldest, rest, hi, he⟩ := q.pop_cases
  · rw [he]
    simpa [Traffic.pop] using h
  · rw [he]
    have hr := h.room
    rw [hi, List.length_cons] at hr
    exact {
      content := by simp [h.content, hi]
      room := Nat.le_of_succ_le hr
      counted := by simpa using h.counted
      latest := fun hn => by simp at hn }

theorem length_pushed (h : t.Tallies q uncounted) :
    t.pushed.length = t.taken.length + (q.dropped + uncounted) + q.items.length := by
  rw [h.content, List.length_append, List.length_map, t.length_departed, h.counted]

end Traffic.Tallies

/-- A queue that several sides use at once. A push takes two accesses: it puts its event in, and counts
the one that it gave up, if it did; so many pushes are between the two. -/
structure Shared (ε : Type) where
  queue : EventQueue ε
  uncounted : Nat := 0
  traffic : Traffic ε := {}

inductive Access (ε : Type)
  | enqueue (event : ε)
  | count
  | pop

def Access.event? : Access ε → Option ε
  | enqueue e => some e
  | _ => none

namespace Shared

def start (capacity : Nat) : Shared ε := { queue := .ofCapacity capacity }

/-- An access of one side. There is nothing to count if no push is between its accesses. -/
def access (s : Shared ε) : Access ε → Shared ε
  | .enqueue e =>
    ⟨(s.queue.enqueue e).2, s.uncounted + (s.queue.enqueue e).1.toList.length,
      s.traffic.push e (s.queue.enqueue e).1⟩
  | .count =>
    match s.uncounted with
    | 0 => s
    | uncounted + 1 => { s with queue := s.queue.countDropped, uncounted }
  | .pop => { s with queue := s.queue.pop.2, traffic := s.traffic.pop s.queue.pop.1 }

def accessAll (s : Shared ε) (accesses : List (Access ε)) : Shared ε := accesses.foldl access s

def Tallies (s : Shared ε) : Prop := s.traffic.Tallies s.queue s.uncounted

theorem Tallies.access {s : Shared ε} (h : s.Tallies) (a : Access ε) : (s.access a).Tallies := by
  cases a with
  | enqueue e => exact h.enqueue e
  | pop => exact h.pop
  | count =>
    obtain ⟨queue, uncounted, traffic⟩ := s
    cases uncounted with
    | zero => exact h
    | succ uncounted => exact h.count

theorem Tallies.accessAll {s : Shared ε} (h : s.Tallies) (accesses : List (Access ε)) :
    (s.accessAll accesses).Tallies := by
  induction accesses generalizing s with
  | nil => exact h
  | cons a accesses ih => exact ih (h.access a)

theorem capacity_access (s : Shared ε) (a : Access ε) :
    (s.access a).queue.capacity = s.queue.capacity := by
  cases a with
  | enqueue e => exact s.queue.capacity_enqueue e
  | pop => rfl
  | count =>
    obtain ⟨queue, uncounted, traffic⟩ := s
    cases uncounted <;> rfl

theorem capacity_accessAll (s : Shared ε) (accesses : List (Access ε)) :
    (s.accessAll accesses).queue.capacity = s.queue.capacity := by
  induction accesses generalizing s with
  | nil => rfl
  | cons a accesses ih => exact (ih _).trans (s.capacity_access a)

theorem pushed_access (s : Shared ε) (a : Access ε) :
    (s.access a).traffic.pushed = s.traffic.pushed ++ a.event?.toList := by
  cases a with
  | enqueue e => rfl
  | pop => exact (List.append_nil _).symm
  | count =>
    obtain ⟨queue, uncounted, traffic⟩ := s
    cases uncounted <;> exact (List.append_nil _).symm

theorem pushed_accessAll (s : Shared ε) (accesses : List (Access ε)) :
    (s.accessAll accesses).traffic.pushed = s.traffic.pushed ++ accesses.filterMap Access.event? := by
  induction accesses generalizing s with
  | nil => simp [accessAll]
  | cons a accesses ih =>
    have hr := ih (s.access a)
    rw [pushed_access, List.append_assoc] at hr
    cases a <;> exact hr

/-- A push with no access of another side in between is a push. -/
theorem accessAll_push (s : Shared ε) (h : s.uncounted = 0) (e : ε) :
    s.accessAll [.enqueue e, .count] =
      ⟨(s.queue.push e).2, 0, s.traffic.push e (s.queue.push e).1⟩ := by
  obtain ⟨-, he⟩ | ⟨oldest, rest, -, -, he⟩ := s.queue.enqueue_cases e <;>
    simp [accessAll, access, push, he, h]

/-- Whatever a queue is used for, by however many sides: it never holds more than its capacity, nothing
gets lost or overtakes, and only a full queue gives an event up, its oldest; the latest event is always
there. What was given up is counted once the pushes are through, and then what came in is what was
taken out, what was dropped and what is there. -/
theorem bounded_fifo (capacity : Nat) (accesses : List (Access ε)) :
    let s := (start capacity).accessAll accesses
    s.traffic.pushed = accesses.filterMap Access.event? ∧
    s.queue.size ≤ max capacity 1 ∧
    s.traffic.pushed = s.traffic.departed.map Departure.event ++ s.queue.items ∧
    (∀ e, (s.queue.enqueue e).1 =
        (if s.queue.size = max capacity 1 then s.queue.items.head? else none) ∧
      ((s.queue.enqueue e).1.isSome ↔ s.queue.size = max capacity 1) ∧
      (s.queue.enqueue e).2.items.getLast? = some e) ∧
    (s.traffic.taken = [] → s.queue.items = s.traffic.pushed.rtake (max capacity 1)) ∧
    s.queue.dropped + s.uncounted = s.traffic.evicted.length ∧
    (s.uncounted = 0 → s.traffic.pushed.length =
      s.traffic.taken.length + s.queue.dropped + s.queue.size) ∧
    (s.uncounted = 0 → ∀ e, s.accessAll [.enqueue e, .count] =
      ⟨(s.queue.push e).2, 0, s.traffic.push e (s.queue.push e).1⟩) := by
  intro s
  have hc : s.queue.capacity = max capacity 1 := capacity_accessAll ..
  have ht : s.traffic.Tallies s.queue s.uncounted :=
    Tallies.accessAll (s := start capacity) (.start capacity) accesses
  have hr := ht.room
  rw [← hc]
  refine ⟨pushed_accessAll .., hr, ht.content, fun e => ?_, ht.latest, ht.counted, fun hu => ?_,
    s.accessAll_push⟩
  · obtain ⟨hlt, he⟩ | ⟨oldest, rest, hi, hf, he⟩ := s.queue.enqueue_cases e
    · have hn : s.queue.size ≠ s.queue.capacity := Nat.ne_of_lt hlt
      simp [he, hn]
    · have hs : s.queue.size = s.queue.capacity := Nat.le_antisymm hr hf
      simp [he, hs, hi]
  · have hl := ht.length_pushed
    rwa [hu] at hl

end Shared

end ScreenAgent.EventQueue
