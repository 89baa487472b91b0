import ScreenAgent.Hierarchy.Attribute
import ScreenAgent.Hierarchy.Tag

namespace ScreenAgent.Hierarchy

inductive DumpError
  /-- A node is closed that was not opened. -/
  | unexpectedClose
  | unclosed (count : Nat)
  /-- There is nothing open that a node could be put into. -/
  | withoutParent
deriving DecidableEq

def DumpError.message : DumpError → String
  | unexpectedClose => "unexpected </node>"
  | unclosed count => String.ofList (Text.ofNat count) ++ " unclosed <node> elements"
  | withoutParent => "node without parent"

/-- Puts a node into the innermost of the open ones, behind the children that this has already. -/
def attach (n : Node) : List Node → Except DumpError (List Node)
  | [] => .error .withoutParent
  | parent :: outer => .ok (parent.withChildren [n] :: outer)

/-- What a tag does to the open nodes, of which the innermost comes first and the root last. A node
gets its place in the tree when it is closed. -/
def step (stack : List Node) : Tag → Except DumpError (List Node)
  | .opening content => .ok (.mk (nodeAttributes content) [] :: stack)
  | .selfClosing content => attach (.mk (nodeAttributes content) []) stack
  | .closing =>
    match stack with
    | n :: parent :: outer => attach n (parent :: outer)
    | _ => .error .unexpectedClose

def finish : List Node → Except DumpError Node
  | [root] => .ok root
  | stack => .error (.unclosed (stack.length - 1))

def read (s : List Char) : Except DumpError Node := do finish (← (tags s).foldlM step [default])

end ScreenAgent.Hierarchy
