import ScreenAgent.Bridge.Command
import ScreenAgent.Text.Base64

namespace ScreenAgent.Bridge

abbrev Point := Coordinate × Coordinate

def coordinateText (c : Coordinate) : String := String.ofList (Text.ofInt c.val)

def tap (device : Option String) (place : Point) : Bridge Unit := do
  let _ ← command device ["shell", "input", "tap", coordinateText place.1, coordinateText place.2]

/-- How many milliseconds a swipe takes: the longer the way, the more, between 300 and 1000. -/
def swipeDuration? (start finish : Point) : Option Nat := do
  let dx ← Coordinate.ofInt? (start.1.val - finish.1.val)
  let dx2 ← Coordinate.ofInt? (dx.val * dx.val)
  let dy ← Coordinate.ofInt? (start.2.val - finish.2.val)
  let dy2 ← Coordinate.ofInt? (dy.val * dy.val)
  let square ← Coordinate.ofInt? (dx2.val + dy2.val)
  return max 300 (min 1000 (square.val.toNat / 2000))

def swipe (device : Option String) (start finish : Point) (duration : Option Nat) : Bridge Unit := do
  let ms ← match duration with
    | some ms => pure ms
    | none => within (swipeDuration? start finish)
  let _ ← command device ["shell", "input", "swipe", coordinateText start.1, coordinateText start.2,
    coordinateText finish.1, coordinateText finish.2, String.ofList (Text.ofNat ms)]

def keyboard : String := "com.android.adbkeyboard/.AdbIME"

def isKeyboard (ime : String) : Bool := Text.holds keyboard.toList ime.toList

def typeText (device : Option String) (text : String) : Bridge Unit := do
  let encoded := String.ofList (Text.Base64.encode (Text.Utf8.encode text.toList))
  let _ ← command device ["shell", "am", "broadcast", "-a", "ADB_INPUT_B64", "--es", "msg", encoded]

def clearText (device : Option String) : Bridge Unit := do
  let _ ← command device ["shell", "am", "broadcast", "-a", "ADB_CLEAR_TEXT"]

def setKeyboard (device : Option String) (ime : String) : Bridge Unit := do
  let _ ← command device ["shell", "ime", "set", ime]

/-- Switches to the keyboard of the bridge and gives the one that was there before. -/
def borrowKeyboard (device : Option String) : Bridge String := do
  let answer ← command device ["shell", "settings", "get", "secure", "default_input_method"]
  let ime := String.ofList (Text.trim answer)
  if !isKeyboard ime then setKeyboard device keyboard
  typeText device ""
  return ime

/-- Switches back to a keyboard, unless it is none or still the one of the bridge. -/
def restoreKeyboard (device : Option String) (ime : String) : Bridge Unit := do
  if ime ≠ "" ∧ !isKeyboard ime then setKeyboard device ime

end ScreenAgent.Bridge
