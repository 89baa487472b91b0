import ScreenAgent.Text.Blank
import ScreenAgent.Unicode.Word

namespace ScreenAgent.Hierarchy

inductive Tag
  | opening (content : List Char)
  | selfClosing (content : List Char)
  | closing
deriving DecidableEq

/-- How many characters there are before the angle bracket that ends a tag. An angle bracket between
double quotes does not end it; `quoted` tells whether a quote is open, and `before` characters have
been counted already. -/
def contentSize? (quoted : Bool) (before : Nat) : List Char → Option Nat
  | [] => none
  | c :: r =>
    if c = '>' ∧ quoted = false then some before
    else contentSize? (if c = '"' then !quoted else quoted) (before + 1) r

/-- A tag that opens a node closes it as well if a slash is the last thing in it. -/
def Tag.ofContent (content : List Char) : Tag :=
  if (Text.trimEnd content).getLast? = some '/' then .selfClosing content else .opening content

/-- The tag at the start of a text, and how many characters belong to it. -/
def tag? (s : List Char) : Option (Tag × Nat) :=
  if "<node".toList.isPrefixOf s then
    let rest := s.drop 5
    if rest.head?.any Unicode.isWord then none
    else (contentSize? false 0 rest).map fun n => (.ofContent (rest.take n), n + 6)
  else if "</node".toList.isPrefixOf s then
    let rest := s.drop 6
    let blanks := rest.takeWhile Text.isBlank
    if rest[blanks.length]? = some '>' then some (.closing, blanks.length + 7) else none
  else none

/-- The tags in a text from left to right. The first `skip` characters belong to a tag that has been
read. -/
def tagsFrom : (skip : Nat) → List Char → List Tag
  | _, [] => []
  | skip + 1, _ :: r => tagsFrom skip r
  | 0, c :: r =>
    match tag? (c :: r) with
    | some (tag, size) => tag :: tagsFrom (size - 1) r
    | none => tagsFrom 0 r

def tags (s : List Char) : List Tag := tagsFrom 0 s

end ScreenAgent.Hierarchy
