import ScreenAgent.Agent.Config
import ScreenAgent.Agent.Execution
import ScreenAgent.Learning.Learner

namespace ScreenAgent

structure Agent (π ρ σ : Type) where
  perception : Perception
  policy : π
  learner : Learner ρ σ
  cycles : Nat

structure Report where
  cycle : Nat
  snapshot : Snapshot
  action : Action
  outcome : Outcome
  record : Record
  policyComplete : Bool

namespace Agent

variable {π ρ σ : Type}

def ofConfig (c : Config) (policy : π) (reward : ρ) (sink : Option σ) : Agent π ρ σ where
  perception := ⟨c.maxNodes⟩
  policy
  learner := .ofCapacity c.bufferCapacity reward sink
  cycles := 0

def conclude [Policy π] [Reward ρ] [Sink σ] (a : Agent π ρ σ) (stamp : Stamp) (s : Snapshot)
    (action : Action) (outcome : Outcome) : Report × Agent π ρ σ :=
  let (record, learner, policy) := a.learner.record stamp s action outcome a.policy
  ({ cycle := a.cycles + 1, snapshot := s, action, outcome, record,
     policyComplete := Policy.isComplete policy },
   { a with policy, learner, cycles := a.cycles + 1 })

/-- One cycle on a screen, which may be missing. -/
def cycle [Policy π] [Reward ρ] [Sink σ] {ν : Type} [TreeView ν] (a : Agent π ρ σ) (stamp : Stamp)
    (root : Option ν) : Plan (Report × Agent π ρ σ) :=
  let s := a.perception.analyze root
  let action := Policy.decide a.policy s
  (action.execute a.perception).map (a.conclude stamp s action)

/-- Carries out one cycle on a surface. It is stamped by how many cycles there were before. -/
def attend [Policy π] [Reward ρ] [Sink σ] {m : Type → Type} [Monad m] (surface : Surface m)
    (stamps : Nat → Stamp) (a : Agent π ρ σ) (tree : Node) : m (Option (Report × Agent π ρ σ)) :=
  (a.cycle (stamps a.cycles) (some tree)).on surface

end Agent

end ScreenAgent
