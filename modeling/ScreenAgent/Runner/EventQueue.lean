namespace ScreenAgent

/-- Events in the order in which they came. The capacity is at least one. -/
structure EventQueue (ε : Type) where
  items : List ε
  capacity : Nat
  dropped : Nat
  capacity_pos : 0 < capacity

namespace EventQueue

variable {ε : Type}

/-- A queue without events; a capacity of zero counts as one. The room for the events is reserved at once,
which is taken to succeed: a capacity for which there are not enough addresses is refused with a
panic. -/
def ofCapacity (capacity : Nat) : EventQueue ε where
  items := []
  capacity := max capacity 1
  dropped := 0
  capacity_pos := by omega

def size (q : EventQueue ε) : Nat := q.items.length

def isEmpty (q : EventQueue ε) : Bool := q.items.isEmpty

/-- Takes an event in, and gives up the oldest one if there is no room. -/
def enqueue (q : EventQueue ε) (e : ε) : Option ε × EventQueue ε :=
  if q.items.length < q.capacity then (none, { q with items := q.items ++ [e] })
  else (q.items.head?, { q with items := q.items.tail ++ [e] })

def countDropped (q : EventQueue ε) : EventQueue ε := { q with dropped := q.dropped + 1 }

def push (q : EventQueue ε) (e : ε) : Option ε × EventQueue ε :=
  match q.enqueue e with
  | (none, q) => (none, q)
  | (some evicted, q) => (some evicted, q.countDropped)

def pop (q : EventQueue ε) : Option ε × EventQueue ε :=
  (q.items.head?, { q with items := q.items.tail })

end EventQueue

end ScreenAgent
