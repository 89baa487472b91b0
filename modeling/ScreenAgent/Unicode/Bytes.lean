import ScreenAgent.Unicode.Ranges

namespace ScreenAgent.Unicode

abbrev ByteRanges := List (Nat × Nat)

def bytesOf (n : Nat) : List Nat :=
  if n < 0x80 then [n]
  else if n < 0x800 then [0xC0 + n / 64, 0x80 + n % 64]
  else if n < 0x10000 then [0xE0 + n / 4096, 0x80 + n / 64 % 64, 0x80 + n % 64]
  else [0xF0 + n / 262144, 0x80 + n / 4096 % 64, 0x80 + n / 64 % 64, 0x80 + n % 64]

/-- Where to cut a range whose ends differ before their last bytes, those behind filling a block: the
last code point before the first block that is whole, or else before the last block that is not. -/
def blockCut? (low high : Nat) : (blocks : List Nat) → Option Nat
  | [] => none
  | block :: r =>
    if low / block ≠ high / block ∧ low % block ≠ 0 then some (low / block * block + block - 1)
    else if low / block ≠ high / block ∧ high % block ≠ block - 1 then
      some (high / block * block - 1)
    else blockCut? low high r

/-- The last code point of the first of two pieces, if the range is not one sequence of byte ranges:
first the number of bytes has to agree, then every byte has to range for itself. -/
def cut? (low high : Nat) : Option Nat :=
  match [0x7F, 0x7FF, 0xFFFF].find? fun top => low ≤ top && top < high with
  | some top => some top
  | none => if high ≤ 0x7F then none else blockCut? low high [64, 4096, 262144]

/-- The pieces of a range, in order. `fuel` bounds how often a piece is cut again; three cuts settle
the number of bytes and two the bytes of each block. -/
def piecesOf : (fuel : Nat) → Nat → Nat → List (Nat × Nat)
  | 0, low, high => [(low, high)]
  | fuel + 1, low, high => match cut? low high with
    | some top => piecesOf fuel low top ++ piecesOf fuel (top + 1) high
    | none => [(low, high)]

def byteRanges (set : Ranges) : List ByteRanges :=
  set.flatMap fun p => (piecesOf 12 p.1 p.2).map fun q => (bytesOf q.1).zip (bytesOf q.2)

end ScreenAgent.Unicode
