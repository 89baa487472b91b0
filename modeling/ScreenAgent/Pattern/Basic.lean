import ScreenAgent.Unicode.Ranges
import ScreenAgent.Unicode.Word

namespace ScreenAgent

namespace Pattern

inductive Anchor
  | textStart
  | textEnd
  | lineStart
  | lineEnd
  /-- The start of a line where a carriage return ends lines too. -/
  | returnLineStart
  /-- The end of a line where a carriage return ends lines too. -/
  | returnLineEnd
  | wordEdge (unicode : Bool)
  | noWordEdge (unicode : Bool)
  | wordStart (unicode : Bool)
  | wordEnd (unicode : Bool)
  | noWordBefore (unicode : Bool)
  | noWordAfter (unicode : Bool)
deriving DecidableEq

/-- Whether a character belongs to a word, of all scripts or of ASCII only. -/
def isWordChar (unicode : Bool) (c : Char) : Bool :=
  if unicode then Unicode.isWord c else Unicode.asciiWordRanges.contains c.toNat

/-- Whether an anchor holds between two characters; there is none at an end of the text. -/
def Anchor.holds (a : Anchor) (before after : Option Char) : Bool :=
  let word (unicode : Bool) (c : Option Char) : Bool := c.any (isWordChar unicode)
  match a with
  | textStart => before.isNone
  | textEnd => after.isNone
  | lineStart => before.all (· == '\n')
  | lineEnd => after.all (· == '\n')
  | returnLineStart => before.all fun c => c == '\n' || (c == '\r' && after != some '\n')
  | returnLineEnd => after.all fun c => c == '\r' || (c == '\n' && before != some '\r')
  | wordEdge u => word u before != word u after
  | noWordEdge u => word u before == word u after
  | wordStart u => !word u before && word u after
  | wordEnd u => word u before && !word u after
  | noWordBefore u => !word u before
  | noWordAfter u => !word u after

end Pattern

inductive Pattern
  | empty
  | one (set : Unicode.Ranges)
  | anchor (condition : Pattern.Anchor)
  | seq (first second : Pattern)
  | either (first second : Pattern)
  /-- At least `least` times, and at most `most` times if that is given. -/
  | times (body : Pattern) (least : Nat) (most : Option Nat)

namespace Pattern

def placesOf (p : Char → Bool) : List Char → Nat
  | [] => 0
  | c :: r => (if p c then 1 else 0) + 2 * placesOf p r

/-- The places where an anchor holds; `before` is the character before the text. -/
def placesAt (a : Anchor) (before : Option Char) : List Char → Nat
  | [] => if a.holds before none then 1 else 0
  | c :: r => (if a.holds before (some c) then 1 else 0) + 2 * placesAt a (some c) r

/-- A pattern laid over a text: the places of that text stand for its sets and anchors. -/
inductive Overlay
  | stay
  /-- Goes past the character at one of these places. -/
  | pass (places : Nat)
  /-- Goes on only from these places. -/
  | hold (places : Nat)
  | seq (first second : Overlay)
  | either (first second : Overlay)
  /-- At least `least` times, and so many times more that can be left out. -/
  | times (body : Overlay) (least more : Nat)

/-- Lays a pattern over a text. No more than one further repetition for each place of the text can
lead to a new place. -/
def overlay (text : List Char) : Pattern → Overlay
  | empty => .stay
  | one set => .pass (placesOf (fun c => set.contains c.toNat) text)
  | anchor a => .hold (placesAt a none text)
  | seq p q => .seq (overlay text p) (overlay text q)
  | either p q => .either (overlay text p) (overlay text q)
  | times p least most =>
    .times (overlay text p) least (most.elim (text.length + 1) (· - least))

/-- Applies a step a number of times; a step that changes nothing need not be repeated. -/
def iterate (step : Nat → Nat) : Nat → Nat → Nat
  | 0, s => s
  | n + 1, s =>
    let t := step s
    if t = s then s else iterate step n t

def spread (step : Nat → Nat) (n s : Nat) : Nat := iterate (fun s => s ||| step s) n s

/-- From the places where a pattern may begin to the places where it may end. -/
def Overlay.advance : Overlay → Nat → Nat
  | stay, s => s
  | pass places, s => (s &&& places) <<< 1
  | hold places, s => s &&& places
  | seq p q, s => q.advance (p.advance s)
  | either p q, s => p.advance s ||| q.advance s
  | times p least more, s => spread p.advance more (iterate p.advance least s)

def matchesIn (p : Pattern) (text : List Char) : Bool :=
  (p.overlay text).advance (1 <<< (text.length + 1) - 1) != 0

end Pattern

end ScreenAgent
