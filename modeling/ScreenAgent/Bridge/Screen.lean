import ScreenAgent.Bridge.Command
import ScreenAgent.Hierarchy.Basic

namespace ScreenAgent.Bridge

/-- Digits, an `x` and digits, at the first place in a text where they stand. The first `skip`
characters have been looked at already. -/
def sizeFrom : (skip : Nat) → List Char → Option (List Char × List Char)
  | _, [] => none
  | skip + 1, _ :: r => sizeFrom skip r
  | 0, c :: r =>
    let width := (c :: r).takeWhile Unicode.isDigit
    match width, (c :: r).drop width.length with
    | _ :: _, 'x' :: s =>
      let height := s.takeWhile Unicode.isDigit
      if height = [] then sizeFrom (width.length - 1) r else some (width, height)
    | _, _ => sizeFrom (width.length - 1) r

/-- The size that the output of the window manager tells; an override counts before the physical
size. -/
def parseSize? (output : List Char) : Option (Nat × Nat) := do
  let lines := Text.lines output
  let line ← (lines.find? (Text.holds "Override size".toList)).or
    (lines.find? (Text.holds "Physical size".toList))
  let (width, height) ← sizeFrom 0 line
  return (← Text.natural? UInt32.size width, ← Text.natural? UInt32.size height)

def screenSize (device : Option String) : Bridge (Nat × Nat) := do
  let output ← command device ["shell", "wm", "size"]
  match parseSize? output with
  | some size => return size
  | none => fail (.unexpectedOutput (String.ofList output))

def dumpPath : String := "/sdcard/ui_agent_dump.xml"

/-- Reads the hierarchy of the windows; there is none if no window is active. The file is removed
first, so what is read is never an old dump. -/
def dump (device : Option String) : Bridge (Option Node) := do
  let _ ← command device ["shell", "rm", "-f", dumpPath]
  let status ← command device ["shell", "uiautomator", "dump", dumpPath]
  if Text.holds "null root node".toList status then return none
  if !Text.holds "dumped to".toList status then
    fail (.unexpectedOutput (String.ofList (Text.trim status)))
  match Hierarchy.read (← command device ["shell", "cat", dumpPath]) with
  | .ok tree => return some tree
  | .error e => fail (.malformedHierarchy e)

end ScreenAgent.Bridge
