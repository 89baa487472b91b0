import ScreenAgent.Text.Blank

namespace ScreenAgent.Text

/-- The first place where `wanted` stands: what comes before it and what comes after it. -/
def splitFirst (wanted : List Char) : List Char → Option (List Char × List Char)
  | [] => if wanted = [] then some ([], []) else none
  | c :: r =>
    if wanted.isPrefixOf (c :: r) then some ([], (c :: r).drop wanted.length)
    else (splitFirst wanted r).map fun p => (c :: p.1, p.2)

/-- What comes after the last place where `wanted` stands. -/
def afterLast (wanted : List Char) : List Char → Option (List Char)
  | [] => if wanted = [] then some [] else none
  | c :: r =>
    (afterLast wanted r).or
      (if wanted.isPrefixOf (c :: r) then some ((c :: r).drop wanted.length) else none)

def holds (wanted text : List Char) : Bool := (splitFirst wanted text).isSome

/-- A carriage return at the end of a line belongs to its ending. -/
def dropReturn (line : List Char) : List Char :=
  if line.getLast? = some '\r' then line.dropLast else line

/-- The lines of a text. A line feed ends a line; text after the last line feed is a line of its own
unless it is empty, and keeps a carriage return at its end. -/
def lines (s : List Char) : List (List Char) :=
  let ps := pieces (· == '\n') s
  ps.dropLast.map dropReturn ++ (ps.getLast?.filter (· ≠ [])).toList

def asciiLower (s : List Char) : List Char := s.map Char.toLower

/-- Equality up to the case of ASCII letters; other letters have to be the same. -/
def sameAsciiCase (a b : List Char) : Bool := asciiLower a == asciiLower b

end ScreenAgent.Text
