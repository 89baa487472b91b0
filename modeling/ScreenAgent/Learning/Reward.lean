import ScreenAgent.Learning.Experience

namespace ScreenAgent

/-- A score for experiences; a score may depend on those given before. -/
class Reward (ρ : Type) where
  score : ρ → Experience → Float × ρ

structure ShapedReward where

namespace ShapedReward

def isUnchanged (s : Snapshot) (target : Ref) (text : String) : Bool :=
  (s.resolve? target).any fun p => p.2.text == text

/-- The score of an experience. Setting a text that was there already counts half. -/
def score (s : Snapshot) (a : Action) (o : Outcome) : Float :=
  if o.succeeded then
    match a with
    | .setText target text => if isUnchanged s target text then 0.5 else 1.0
    | .click _ => 0.5
    | .scroll _ => 0.3
    | .wait _ => 0.1
    | .noOp => 0.05
  else if o.errorKind = some .staleReference then -0.5
  else -1.0

instance : Reward ShapedReward where
  score r e := (score e.snapshot e.action e.outcome, r)

end ShapedReward

end ScreenAgent
