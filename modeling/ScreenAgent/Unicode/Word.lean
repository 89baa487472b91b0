import ScreenAgent.Unicode.Category
import ScreenAgent.Unicode.Property

namespace ScreenAgent.Unicode

/-- Letters, marks, decimal digits, connectors and joiners. -/
def wordRanges : Ranges :=
  .union (Ranges.unionOf propertyTable ["alphabetic", "joincontrol"])
    (Ranges.unionOf categoryTable ["mn", "mc", "me", "nd", "pc"])

def asciiWordRanges : Ranges := [(0x30, 0x39), (0x41, 0x5A), (0x5F, 0x5F), (0x61, 0x7A)]

def isWord (c : Char) : Bool :=
  if c.toNat < 128 then asciiWordRanges.contains c.toNat else wordRanges.contains c.toNat

def digitRanges : Ranges := Ranges.unionOf categoryTable ["nd"]

def isDigit (c : Char) : Bool :=
  if c.toNat < 128 then 0x30 ≤ c.toNat && c.toNat ≤ 0x39 else digitRanges.contains c.toNat

end ScreenAgent.Unicode
