import ScreenAgent.CommandLine.Variables
import ScreenAgent.Text.Blank
import ScreenAgent.Unicode.Latest

namespace ScreenAgent.CommandLine

/-- What the characters of a line so far make of the next one. -/
inductive LinePlace
  | plain
  | afterBlank
  | escaped
  | strong
  | strongEscaped
  | weak
  | weakEscaped
deriving DecidableEq

/-- The place after one more character. A second blank in a row counts as no blank. -/
def LinePlace.next : LinePlace → Char → LinePlace
  | strong, c => if c == '\\' then strongEscaped else if c == '\'' then plain else strong
  | weak, c => if c == '\\' then weakEscaped else if c == '"' then plain else weak
  | strongEscaped, _ => strong
  | weakEscaped, _ => weak
  | escaped, _ => plain
  | place, c =>
    if c == '\\' then escaped else if c == '\'' then strong else if c == '"' then weak
    else if place = plain ∧ c ≠ '\n' ∧ c ≠ '\r' ∧ Text.isBlank c then afterBlank else plain

def afterLineFeed (s : List Char) : List Char := (s.dropWhile (· != '\n')).drop 1

/-- Takes a line without the comment that may end it, and tells what follows. There is no line where
the text ends inside quotes, behind a backslash or behind a blank. -/
def takeLine (place : LinePlace) : List Char → Option (List Char × List Char)
  | [] => if place = .plain then some ([], []) else none
  | c :: r =>
    if place = .afterBlank ∧ c = '#' then some ([], afterLineFeed r)
    else if c = '\n' ∧ place.next c = .plain then some ([], r)
    else (takeLine (place.next c) r).map fun p => (c :: p.1, p.2)

/-- How the next character of a value is taken: as it comes, behind a backslash, inside single quotes,
behind the value, or as part of the name of a variable to put in. -/
inductive ValuePlace
  | plain
  | escaped
  | strong
  | behind
  | name (n : List Char)
  | braced (n : List Char)

/-- Reads a value; `find` tells what stands for a variable, and `weak` whether double quotes are
open. Behind a blank nothing but a comment may stand, and quotes and braces have to be closed. -/
def value? (find : List Char → List Char) (weak : Bool) : ValuePlace → List Char → Option (List Char)
  | .strong, [] | .braced _, [] => none
  | .name n, [] => if weak then none else some (find n)
  | _, [] => if weak then none else some []
  | .behind, c :: r =>
    if c == ' ' || c == '\t' then value? find weak .behind r
    else if c == '#' then some [] else none
  | .escaped, c :: r =>
    if "\\'\"$ ".toList.contains c then (c :: ·) <$> value? find weak .plain r
    else if c == 'n' then ('\n' :: ·) <$> value? find weak .plain r else none
  | .strong, c :: r =>
    if c == '\'' then value? find weak .plain r else (c :: ·) <$> value? find weak .strong r
  | .name n, c :: r =>
    if Unicode.Latest.isLetter c || Unicode.Latest.isNumber c then
      value? find weak (.name (n ++ [c])) r
    else if c == '\x7b' && n.isEmpty then value? find weak (.braced []) r
    else if c == '$' then (find n ++ ·) <$> value? find weak (.name []) r
    else (find n ++ c :: ·) <$> value? find weak .plain r
  | .braced n, c :: r =>
    if c == '\x7d' then (find n ++ ·) <$> value? find weak .plain r
    else value? find weak (.braced (n ++ [c])) r
  | .plain, c :: r =>
    if c == '$' then value? find weak (.name []) r
    else if c == '\\' then value? find weak .escaped r
    else if c == '"' then value? find (!weak) .plain r
    else if weak then (c :: ·) <$> value? find weak .plain r
    else if c == '\'' then value? find weak .strong r
    else if c == ' ' || c == '\t' then value? find weak .behind r
    else (c :: ·) <$> value? find weak .plain r

def isKeyStart (c : Char) : Bool := c.isAlpha || c == '_'

def isKeyChar (c : Char) : Bool := c.isAlphanum || c == '_' || c == '.'

def key? (s : List Char) : Option (List Char × List Char) :=
  let key := s.takeWhile isKeyChar
  if s.head?.any isKeyStart then some (key, Text.trimStart (s.drop key.length)) else none

def assignment? (find : List Char → List Char) (s : List Char) : Option (String × String) := do
  let (key, rest) ← key? s
  let (key, rest) ← if key = "export".toList ∧ rest.head? ≠ some '=' then key? rest
    else some (key, rest)
  guard (rest.head? = some '=')
  let text := Text.trimStart rest.tail
  let value ← if text.head? = some '#' then some [] else value? find false .plain text
  return (String.ofList key, String.ofList value)

namespace Variables

/-- Adds the variables of a file behind those there are. Empty lines and comments are passed over; a
line that is neither nor an assignment ends the reading. `fuel` bounds the number of lines. -/
def readLines (vs : Variables) : (fuel : Nat) → List Char → Variables
  | 0, _ => vs
  | _, [] => vs
  | fuel + 1, text =>
    if (Text.trimStart (text.takeWhile (· != '\n'))).head? = some '#' then
      vs.readLines fuel (afterLineFeed text)
    else match takeLine .plain text with
      | none => vs
      | some (line, rest) =>
        let s := Text.trim line
        if s = [] then vs.readLines fuel rest
        else match assignment? (fun n => ((vs.lookup (String.ofList n)).getD "").toList) s with
          | some v => readLines (vs ++ [v]) fuel rest
          | none => vs

/-- The variables of an environment, with those of a file behind them. A byte order mark at the start
of the file is no part of it. -/
def withFile (vs : Variables) (file : Option String) : Variables :=
  match file with
  | none => vs
  | some text =>
    let s := text.toList
    let s := if s.head? = some (Char.ofNat 0xFEFF) then s.tail else s
    vs.readLines (s.length + 1) s

end Variables

end ScreenAgent.CommandLine
