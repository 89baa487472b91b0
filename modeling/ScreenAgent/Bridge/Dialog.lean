import ScreenAgent.Text.Utf8

namespace ScreenAgent

structure Reply where
  output : List UInt8 := []
  errors : List UInt8 := []
  status : Nat := 0
deriving DecidableEq, Inhabited

inductive LaunchError
  | notFound
  /-- An argument holds the character that ends arguments. -/
  | nulByte
deriving DecidableEq

def LaunchError.message : LaunchError → String
  | notFound => "No such file or directory (os error 2)"
  | nulByte => "nul byte found in provided data"

/-- What is to be asked of the bridge, step by step. -/
inductive Dialog (α : Type)
  | done (value : α)
  | invoke (arguments : List String) (next : Except LaunchError Reply → Dialog α)

namespace Dialog

def bind {α β : Type} (f : α → Dialog β) : Dialog α → Dialog β
  | done a => f a
  | invoke arguments next => invoke arguments fun r => (next r).bind f

instance : Monad Dialog where
  pure := done
  bind d f := d.bind f

/-- Runs the bridge once. Arguments that can not be passed on are refused. -/
def launch (arguments : List String) : Dialog (Except LaunchError Reply) :=
  if arguments.any fun a => a.toList.contains '\x00' then done (.error .nulByte)
  else invoke arguments done

end Dialog

class Host (δ : Type) where
  respond : δ → List String → Except LaunchError Reply × δ

def Dialog.play {δ α : Type} [Host δ] : Dialog α → δ → α × δ
  | done a, h => (a, h)
  | invoke arguments next, h =>
    let (r, h) := Host.respond h arguments
    (next r).play h

/-- Replies in the order in which they will be given; when there are no more, the bridge prints
nothing. It notes what it was run with. -/
structure Script where
  replies : List Reply
  installed : Bool := true
  calls : List (List String) := []

instance : Host Script where
  respond s arguments :=
    if s.installed then
      (.ok (s.replies.head?.getD {}),
        { s with replies := s.replies.tail, calls := s.calls ++ [arguments] })
    else (.error .notFound, s)

end ScreenAgent
