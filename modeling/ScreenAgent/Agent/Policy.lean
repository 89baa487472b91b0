import ScreenAgent.Learning.Experience

namespace ScreenAgent

class Policy (π : Type) where
  decide : π → Snapshot → Action
  /-- Learns from one experience. -/
  update : π → Experience → Float → π
  /-- Learns from a batch of experiences. -/
  refine : π → List Experience → π
  isComplete : π → Bool

/-- What a batch of experiences comes to. A kind of failure that did not happen is not listed. -/
structure BatchSummary where
  size : Nat
  successes : Nat
  failures : List (ErrorKind × Nat)
  noOps : Nat
deriving DecidableEq

namespace BatchSummary

def isFailure (kind : ErrorKind) (e : Experience) : Bool :=
  !e.outcome.succeeded && e.outcome.errorKind == some kind

def ofBatch (batch : List Experience) : BatchSummary where
  size := batch.length
  successes := batch.countP fun e => e.outcome.succeeded
  failures := [ErrorKind.staleReference, .executionFailure].filterMap fun kind =>
    let n := batch.countP (isFailure kind)
    if n = 0 then none else some (kind, n)
  noOps := batch.countP fun e => e.action.isNoOp

end BatchSummary

end ScreenAgent
