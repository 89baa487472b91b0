import ScreenAgent.Agent.Policy
import ScreenAgent.Learning.Reward

namespace ScreenAgent

/-- What is wrong with an experience. -/
inductive Anomaly
  /-- Its action is about an element that its snapshot does not have. -/
  | unknownTarget (target : Ref)
  /-- It succeeded with an error. -/
  | inconsistentOutcome
  /-- It can not be rewarded. -/
  | nonFiniteReward (reward : Float)

namespace Anomaly

def nonFiniteText (f : Float) : String := if f.isNaN then "NaN" else if f < 0 then "-inf" else "inf"

def message : Anomaly → String
  | unknownTarget target => "Action targets " ++ target.display ++ ", which is not in its snapshot"
  | inconsistentOutcome => "Outcome marked succeeded but carries an error kind"
  | nonFiniteReward reward => "Reward is not finite: " ++ nonFiniteText reward

end Anomaly

def Experience.anomaly? (e : Experience) : Option Anomaly :=
  match e.action.target?.filter fun target => (e.snapshot.resolve? target).isNone with
  | some target => some (.unknownTarget target)
  | none =>
    if e.outcome.succeeded && e.outcome.errorKind.isSome then some .inconsistentOutcome else none

class Sink (σ : Type) where
  persist : σ → List Experience → Except String Unit × σ

inductive Record
  | recorded (reward : Float) (optimized : Bool)
  | dropped (anomaly : Anomaly)

structure Stamp where
  id : Uuid := default
  time : Timestamp := default

/-- Experiences on their way into a batch. The capacity is at least one. -/
structure Learner (ρ σ : Type) where
  buffer : List Experience
  capacity : Nat
  reward : ρ
  sink : Option σ
  runs : Nat
  dropped : Nat
  capacity_pos : 0 < capacity

namespace Learner

variable {ρ σ π : Type}

/-- A learner without experiences; a capacity of zero counts as one. The room for a batch is reserved at
once, which is taken to succeed: a capacity for which there are not enough addresses is refused with a
panic. -/
def ofCapacity (capacity : Nat) (reward : ρ) (sink : Option σ) : Learner ρ σ where
  buffer := []
  capacity := max 1 capacity
  reward
  sink
  runs := 0
  dropped := 0
  capacity_pos := by omega

def size (l : Learner ρ σ) : Nat := l.buffer.length

/-- Hands the buffer to the sink and to the policy, and empties it. What the sink says to it does not
matter. -/
def optimize [Sink σ] [Policy π] (l : Learner ρ σ) (p : π) : Learner ρ σ × π :=
  ({ l with
      buffer := []
      sink := l.sink.map fun s => (Sink.persist s l.buffer).2
      runs := l.runs + 1 },
    Policy.refine p l.buffer)

def drop (l : Learner ρ σ) : Learner ρ σ := { l with dropped := l.dropped + 1 }

/-- Takes an experience with its reward in; a buffer that is full then is handed on. -/
def keep [Sink σ] [Policy π] (l : Learner ρ σ) (e : Experience) (reward : Float) (p : π) :
    Record × Learner ρ σ × π :=
  let l := { l with buffer := l.buffer ++ [{ e with reward }] }
  let p := Policy.update p { e with reward } reward
  if l.capacity ≤ l.buffer.length then (.recorded reward true, l.optimize p)
  else (.recorded reward false, l, p)

def record [Reward ρ] [Sink σ] [Policy π] (l : Learner ρ σ) (stamp : Stamp) (s : Snapshot)
    (a : Action) (o : Outcome) (p : π) : Record × Learner ρ σ × π :=
  let e : Experience := ⟨stamp.id, s, a, o, stamp.time, 0⟩
  match e.anomaly? with
  | some anomaly => (.dropped anomaly, l.drop, p)
  | none =>
    let (reward, calculator) := Reward.score l.reward e
    let l := { l with reward := calculator }
    if reward.isFinite then l.keep e reward p
    else (.dropped (.nonFiniteReward reward), l.drop, p)

end Learner

end ScreenAgent
