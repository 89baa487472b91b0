import ScreenAgent.Json.Basic

namespace ScreenAgent.Json

def escapedChar (c : Char) : List Char :=
  match c with
  | '"' => ['\\', '"']
  | '\\' => ['\\', '\\']
  | '\x08' => ['\\', 'b']
  | '\x0c' => ['\\', 'f']
  | '\n' => ['\\', 'n']
  | '\r' => ['\\', 'r']
  | '\t' => ['\\', 't']
  | c => if c.toNat < 32 then ['\\', 'u'] ++ (Text.hexOfNat c.toNat).leftpad 4 '0' else [c]

/-- A string literal. One without text is written like the empty one. -/
def literal (s : Option String) : List Char :=
  '"' :: (s.getD "").toList.flatMap escapedChar ++ ['"']

def numeral (n : Numeral) : List Char :=
  (if n.negative then ['-'] else []) ++ n.whole ++
    (if n.fraction = [] then [] else '.' :: n.fraction) ++
    match n.exponent with
    | none => []
    | some (down, digits) => 'e' :: (if down then '-' else '+') :: digits

def joinWith (separator : List Char) : List (List Char) → List Char
  | [] => []
  | [a] => a
  | a :: r => a ++ separator ++ joinWith separator r

mutual

def compact : Json → List Char
  | .null => "null".toList
  | .bool b => (if b then "true" else "false").toList
  | .number n => numeral n
  | .string s => literal s
  | .array items => '[' :: joinWith [','] (compactItems items) ++ [']']
  | .object members => '\x7b' :: joinWith [','] (compactMembers members) ++ ['\x7d']

def compactItems : List Json → List (List Char)
  | [] => []
  | j :: r => compact j :: compactItems r

def compactMembers : List (Option String × Json) → List (List Char)
  | [] => []
  | (k, j) :: r => (literal k ++ ':' :: compact j) :: compactMembers r

end

def newline (depth : Nat) : List Char := '\n' :: List.replicate (2 * depth) ' '

mutual

/-- The indented text of a value whose first line stands at a depth of nesting. -/
def indented (depth : Nat) : Json → List Char
  | .null => "null".toList
  | .bool b => (if b then "true" else "false").toList
  | .number n => numeral n
  | .string s => literal s
  | .array [] => ['[', ']']
  | .array (j :: r) =>
    '[' :: newline (depth + 1) ++
      joinWith (',' :: newline (depth + 1)) (indentedItems (depth + 1) (j :: r)) ++
      newline depth ++ [']']
  | .object [] => ['\x7b', '\x7d']
  | .object (m :: r) =>
    '\x7b' :: newline (depth + 1) ++
      joinWith (',' :: newline (depth + 1)) (indentedMembers (depth + 1) (m :: r)) ++
      newline depth ++ ['\x7d']

def indentedItems (depth : Nat) : List Json → List (List Char)
  | [] => []
  | j :: r => indented depth j :: indentedItems depth r

def indentedMembers (depth : Nat) : List (Option String × Json) → List (List Char)
  | [] => []
  | (k, j) :: r => (literal k ++ ':' :: ' ' :: indented depth j) :: indentedMembers depth r

end

def toCompact (j : Json) : String := String.ofList (compact j)

def toIndented (j : Json) : String := String.ofList (indented 0 j)

end ScreenAgent.Json
