import ScreenAgent.Text.Integer
import ScreenAgent.Unicode.Latest

namespace ScreenAgent.Text

/-- Code points that would not show, or would join with the one before them. Modifier letters have a
shape of their own even where they extend a character. -/
def concealed : Unicode.Ranges :=
  Unicode.Latest.hidden.union
    (Unicode.Latest.extenders.diff (Unicode.Ranges.unionOf Unicode.categoryTable ["lm"]))

def isShown (c : Char) : Bool :=
  if c.toNat < 0x7F then 0x20 ≤ c.toNat else !concealed.contains c.toNat

def quotedChar (c : Char) : List Char :=
  match c with
  | '\x00' => ['\\', '0']
  | '\t' => ['\\', 't']
  | '\r' => ['\\', 'r']
  | '\n' => ['\\', 'n']
  | '"' => ['\\', '"']
  | '\\' => ['\\', '\\']
  | c => if isShown c then [c] else ['\\', 'u', '\x7b'] ++ hexOfNat c.toNat ++ ['\x7d']

def quoted (s : List Char) : List Char := '"' :: s.flatMap quotedChar ++ ['"']

end ScreenAgent.Text
