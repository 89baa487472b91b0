import ScreenAgent.Agent.Policy
import ScreenAgent.Goal.Basic

namespace ScreenAgent

structure StepStats where
  attempts : Nat := 0
  successes : Nat := 0
  totalReward : Float := 0

namespace StepStats

/-- The part of the attempts that succeeded; zero before the first attempt. -/
def successRate (s : StepStats) : Float :=
  if s.attempts = 0 then 0 else Float.ofNat s.successes / Float.ofNat s.attempts

def count (s : StepStats) (succeeded : Bool) (reward : Float) : StepStats where
  attempts := s.attempts + 1
  successes := if succeeded then s.successes + 1 else s.successes
  totalReward := s.totalReward + reward

end StepStats

structure RulePolicy where
  goal : Goal
  cursor : Nat
  stats : List StepStats
  lastBatch : Option BatchSummary
  batches : Nat

namespace RulePolicy

def ofGoal (goal : Goal) : RulePolicy where
  goal
  cursor := 0
  stats := List.replicate goal.size {}
  lastBatch := none
  batches := 0

def step? (p : RulePolicy) : Option Step := p.goal.steps[p.cursor]?

def isComplete (p : RulePolicy) : Bool := p.goal.size ≤ p.cursor

/-- Acts on the first element that the current step accepts, if there is one. -/
def decide (p : RulePolicy) (s : Snapshot) : Action :=
  match p.step? with
  | none => .noOp
  | some step =>
    match (s.elements.findIdx? step.accepts).bind s.refAt? with
    | none => .noOp
    | some target =>
      match step.intent with
      | .click => .click target
      | .setText text => .setText target text

/-- Learns from an experience if its action is the one that the policy chooses on its screen. -/
def update (p : RulePolicy) (e : Experience) (reward : Float) : RulePolicy :=
  if p.isComplete || e.action.isNoOp || p.decide e.snapshot != e.action then p
  else { p with
    stats := p.stats.modify p.cursor fun s => s.count e.outcome.succeeded reward
    cursor := if e.outcome.succeeded then p.cursor + 1 else p.cursor }

def refine (p : RulePolicy) (batch : List Experience) : RulePolicy :=
  { p with lastBatch := some (.ofBatch batch), batches := p.batches + 1 }

/-- Goes back to the first step; what is known of the steps is kept. -/
def reset (p : RulePolicy) : RulePolicy := { p with cursor := 0 }

def setGoal (_ : RulePolicy) (goal : Goal) : RulePolicy := ofGoal goal

instance : Policy RulePolicy where
  decide := decide
  update := update
  refine := refine
  isComplete := isComplete

end RulePolicy

end ScreenAgent
