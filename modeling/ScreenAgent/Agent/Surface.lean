import ScreenAgent.Agent.Action
import ScreenAgent.Text.Duration

namespace ScreenAgent

inductive Fault
  | rejected (reason : String)
  | timeout (after : Duration)
  | unavailable (reason : String)
deriving DecidableEq

def Fault.message : Fault → String
  | rejected reason => "Surface rejected action: " ++ reason
  | timeout after => "Surface timed out after " ++ String.ofList after.toText
  | unavailable reason => "Surface unavailable: " ++ reason

inductive Gesture
  | click (element : Element)
  | setText (element : Element) (text : String)
  | scroll (direction : Direction)
  | wait (milliseconds : UInt64)
deriving DecidableEq

/-- What a surface has to say: a value, a fault, or nothing any more because a coordinate left its
range. -/
inductive Answer (α : Type)
  | ok (value : α)
  | fault (cause : Fault)
  | overflow

namespace Answer

def toExcept? {α : Type} : Answer α → Option (Except Fault α)
  | ok a => some (.ok a)
  | fault f => some (.error f)
  | overflow => none

end Answer

/-- What is to be done on a surface, step by step. -/
inductive Plan (α : Type)
  | done (value : α)
  | look (next : Except Fault (Option Node) → Plan α)
  | act (gesture : Gesture) (next : Except Fault Unit → Plan α)

namespace Plan

def map {α β : Type} (f : α → β) : Plan α → Plan β
  | done a => done (f a)
  | look next => look fun r => (next r).map f
  | act gesture next => act gesture fun r => (next r).map f

end Plan

/-- A surface by how it answers in some monad. -/
structure Surface (m : Type → Type) where
  look : m (Answer (Option Node))
  act : Gesture → m (Answer Unit)

/-- Carries a plan out. There is no result if the surface has nothing to say any more. -/
def Plan.on {m : Type → Type} [Monad m] {α : Type} (s : Surface m) : Plan α → m (Option α)
  | done a => pure (some a)
  | look next => do
    match (← s.look).toExcept? with
    | some r => (next r).on s
    | none => pure none
  | act gesture next => do
    match (← s.act gesture).toExcept? with
    | some r => (next r).on s
    | none => pure none

end ScreenAgent
