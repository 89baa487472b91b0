import ScreenAgent.Unicode.Category
import ScreenAgent.Unicode.Property

namespace ScreenAgent.Unicode.Latest

/-- The code points that version 17 adds. -/
def added : Ranges := .ofText [
    "la20iU0_30ol3E2Brk10qs20tXV12010S0n-KFzD1s16nx2Phh1288X11aZ37eIh149sbKO2O-84XW67fe1LX3o3",
    "duF2zDMFGl-5U1L81u-30-43rA8xB3o1030v1040S040g80_vk15Yx5BYeLfc4"]

def addedLetters : Ranges := .ofText [
    "la20iU0_30ntc112010S0kgOPhh12o11aZ37eIh1acKO2O-84XW67fe1LX3o3jcMU1L81wXq15Yx5BYeLfc4"]

def addedNumbers : Ranges := .ofText [
    "Wld29gmK2"]

def addedExtenders : Ranges := .ofText [
    "ls6E2BkWz11aZ301210yxo10207150"]

def letters : Ranges := .union (Ranges.unionOf propertyTable ["alphabetic"]) addedLetters

def numbers : Ranges := .union (Ranges.unionOf categoryTable ["nd", "nl", "no"]) addedNumbers

def extenders : Ranges := .union (Ranges.unionOf propertyTable ["graphemeextend"]) addedExtenders

/-- Code points without a glyph of their own: controls, format characters, separators other than the
space, private use, surrogates, unassigned and ignorable ones. -/
def hidden : Ranges :=
  .union [(0xD800, 0xDFFF)]
    ((Ranges.unionOf categoryTable ["cc", "cf", "co", "cn", "zl", "zp", "zs"]).diff
      (added.union [(0x20, 0x20)]) |>.union (Ranges.unionOf propertyTable ["di"]))

def isLetter (c : Char) : Bool := if c.toNat < 128 then c.isAlpha else letters.contains c.toNat

def isNumber (c : Char) : Bool := if c.toNat < 128 then c.isDigit else numbers.contains c.toNat

end ScreenAgent.Unicode.Latest
