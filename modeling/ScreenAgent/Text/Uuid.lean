import ScreenAgent.Text.Blank
import ScreenAgent.Text.Integer
import ScreenAgent.Text.Search

namespace ScreenAgent

structure Uuid where
  digits : List (Fin 16)
  size : digits.length = 32
deriving DecidableEq

namespace Uuid

instance : Inhabited Uuid := ⟨⟨List.replicate 32 0, by simp⟩⟩

/-- The identifier whose digits are those of a number, but for the two that mark it as chosen at
random. -/
def ofNat (n : Nat) : Uuid :=
  let digit (place : Nat) : Fin 16 :=
    let d := Fin.ofNat 16 (n >>> (4 * (31 - place)))
    if place = 12 then 4 else if place = 16 then 8 + d % 4 else d
  ⟨(List.range 32).map digit, by simp⟩

def letter (d : Fin 16) : Char := if d.val < 10 then Char.ofNat (48 + d) else Char.ofNat (87 + d)

def digit? (c : Char) : Option (Fin 16) := (Text.hexDigit? c).map fun n => Fin.ofNat 16 n

def ofDigits? (s : List Char) : Option Uuid :=
  match s.mapM digit? with
  | some ds => if h : ds.length = 32 then some ⟨ds, h⟩ else none
  | none => none

def ofGroups? (s : List Char) : Option Uuid :=
  let groups := Text.pieces (· == '-') s
  if groups.map List.length = [8, 4, 4, 4, 12] then ofDigits? groups.flatten else none

def ofText? (s : List Char) : Option Uuid :=
  if s.length = 32 then ofDigits? s
  else if s.length = 36 then ofGroups? s
  else if s.length = 38 then
    if s.head? = some '\x7b' ∧ s.getLast? = some '\x7d' then ofGroups? (s.tail.dropLast) else none
  else if s.length = 45 then
    if Text.sameAsciiCase (s.take 9) "urn:uuid:".toList then ofGroups? (s.drop 9) else none
  else none

def toText (u : Uuid) : List Char :=
  let cs := u.digits.map letter
  cs.take 8 ++ '-' :: (cs.drop 8).take 4 ++ '-' :: (cs.drop 12).take 4 ++ '-' ::
    (cs.drop 16).take 4 ++ '-' :: cs.drop 20

end Uuid

end ScreenAgent
