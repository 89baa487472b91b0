import ScreenAgent.Pattern.Form
import ScreenAgent.Unicode.Bytes
import Std.Data.HashMap

namespace ScreenAgent.Pattern

open Unicode (Ranges ByteRanges byteRanges bytesOf)

def depthLimit : Nat := 250

def sizeLimit : Nat := 10485760

inductive Direction
  | forward
  | backward
deriving DecidableEq

/-- What has been laid out: the number of states, and the bytes of all that states lead on to. -/
structure Layout where
  states : Nat := 0
  links : Nat := 0

namespace Layout

def size (l : Layout) : Nat := 32 * l.states + l.links

def state (l : Layout) (links : Nat) : Layout := ⟨l.states + 1, l.links + links⟩

def plain (l : Layout) (n : Nat) : Layout := { l with states := l.states + n }

def fit (l : Layout) : Option Layout := if l.size ≤ sizeLimit then some l else none

end Layout

/-- A memory of a number of slots. What is noted takes the place of what had the same slot. -/
structure Memory where
  slots : UInt64
  notes : Std.HashMap UInt64 (List Nat × Nat) := {}

namespace Memory

/-- The slot of a key: its numbers are mixed in one after the other by exclusive or and a prime. -/
def slot (m : Memory) (key : List Nat) : UInt64 :=
  (key.foldl (fun h n => (h ^^^ n.toUInt64) * 1099511628211) 14695981039346656037) % m.slots

def noted? (m : Memory) (key : List Nat) : Option Nat :=
  match m.notes[m.slot key]? with
  | some (k, n) => if k = key then some n else none
  | none => none

def note (m : Memory) (key : List Nat) (n : Nat) : Memory :=
  { m with notes := m.notes.insert (m.slot key) (key, n) }

end Memory

structure Draft where
  layout : Layout
  memory : Memory

/-- The number of the state that a key describes. It is laid out if it is not remembered. -/
def Draft.place (d : Draft) (key : List Nat) (links : Nat) : Nat × Draft :=
  match d.memory.noted? key with
  | some n => (n, d)
  | none =>
    let n := d.layout.states
    (n, ⟨d.layout.state links, d.memory.note key n⟩)

/-- Neighbouring sequences that start with the same range, with what follows it in each. -/
def byStart : List ByteRanges → List ((Nat × Nat) × List ByteRanges)
  | [] => []
  | [] :: r => byStart r
  | (b :: t) :: r => match byStart r with
    | (b', ts) :: gs => if b = b' then (b, t :: ts) :: gs else (b, [t]) :: (b', ts) :: gs
    | [] => [(b, [t])]

/-- Lays out sequences that lead on to the state `target` so that one state reads the first byte of
all; `depth` is the length of the longest. -/
def fanOut (target : Nat) : (depth : Nat) → List ByteRanges → Draft → Nat × Draft
  | 0, _, d => (target, d)
  | depth + 1, sequences, d =>
    if sequences.all List.isEmpty then (target, d)
    else
      let groups := byStart sequences
      let (key, d) := groups.foldl (fun (key, d) (b, ts) =>
        let (n, d) := fanOut target depth ts d
        (n :: b.2 :: b.1 :: key, d)) (([] : List Nat), d)
      d.place key.reverse (8 * groups.length)

/-- Lays out a sequence from its last byte to its first, behind which `target` stands. -/
def chain (target : Nat) (sequence : ByteRanges) (d : Draft) : Nat × Draft :=
  sequence.foldl (fun (n, d) b => d.place [n, b.1, b.2] 0) (target, d)

/-- Lays out a set. One state reads all of ASCII; else each byte has states of its own. -/
def Layout.set (l : Layout) (d : Direction) (r : Ranges) : Layout :=
  if r.all (·.2 < 0x80) then (l.plain 1).state (8 * r.length)
  else match d with
    | .forward => (fanOut l.states 4 (byteRanges r) ⟨l.plain 1, { slots := 10000 }⟩).2.layout
    | .backward =>
      let sequences := byteRanges r
      let whole := (l.state (4 * sequences.length)).plain 1
      (sequences.foldl (fun d s => (chain (l.states + 1) s d).2) ⟨whole, { slots := 1000 }⟩).layout

def segments : List (List Nat) → List (List (List Nat))
  | [] => [[]]
  | [] :: r => [] :: segments r
  | w :: r => match segments r with
    | [] => [[w]]
    | s :: ss => (w :: s) :: ss

/-- Lays out words as a tree in which words share their start, a word that ends parting those before
it from those behind; `depth` is the length of the longest. -/
def Layout.tree : (depth : Nat) → List (List Nat) → Layout → Layout
  | 0, _, l => l
  | depth + 1, words, l =>
    let parts := segments (match words with
      | [] :: r => [] :: r.dropWhile List.isEmpty
      | words => words)
    let full := parts.filter (· ≠ [])
    let l := full.foldl (fun l part =>
      let starts := (part.filterMap List.head?).eraseDups
      let l := starts.foldl (fun l b =>
        let tails := part.filterMap fun w => if w.head? = some b then some w.tail else none
        if tails.all List.isEmpty then l else Layout.tree depth tails l) l
      l.state (if starts.length = 1 then 0 else 8 * starts.length)) l
    l.state (4 * (full.length + parts.length - 1))

/-- Lays out texts as alternatives, by their bytes in the order in which they are read. -/
def Layout.texts (l : Layout) (d : Direction) (texts : List (List Char)) : Layout :=
  let words := texts.map fun s =>
    let bytes := s.flatMap fun c => bytesOf c.toNat
    match d with
    | .forward => bytes
    | .backward => bytes.reverse
  (l.plain 1).tree (words.foldl (fun n w => max n w.length) 0) words

def byteCount : List Char → Nat
  | [] => 0
  | c :: r => c.utf8Size + byteCount r

/-- A step a number of times, as long as there is room. -/
def copies (step : Layout → Option Layout) : Nat → Layout → Option Layout
  | 0, l => some l
  | n + 1, l => match step l with
    | some l => copies step n l
    | none => none

/-- The same, where a state stands for none at all. -/
def exactly (step : Layout → Option Layout) (n : Nat) (l : Layout) : Option Layout :=
  if n = 0 then (l.plain 1).fit else copies step n l

namespace Form

mutual

def layOut (d : Direction) : Form → Layout → Option Layout
  | empty, l => (l.plain 1).fit
  | text s, l => (l.plain (byteCount s)).fit
  | set r, l => (l.set d r).fit
  | anchor _, l => (l.plain 1).fit
  | group f, l => match d with
    | .forward => do ((← f.layOut d (l.plain 1)).plain 1).fit
    | .backward => f.layOut d l
  | times f least most _, l =>
    match least, most with
    | 0, some 1 => do ((← f.layOut d (l.state 8)).plain 1).fit
    | 0, none =>
      if f.shortest.any (0 < ·) then f.layOut d (l.state 8)
      else do ((((← f.layOut d l).state 8).state 8).plain 1).fit
    | least, none => do ((← exactly (f.layOut d) least l).state 8).fit
    | least, some most =>
      if least = most then exactly (f.layOut d) least l
      else do
        let l ← exactly (f.layOut d) least l
        copies (fun l => f.layOut d (l.state 8)) (most - least) (l.plain 1)
  | seq parts, l => match d with
    | .forward => layOutAll d parts l
    | .backward => layOutBack d parts l
  | either branches, l =>
    match branches.mapM (fun | text s => some s | _ => none) with
    | some texts => (l.texts d texts).fit
    | none => layOutChoice d branches l

def layOutAll (d : Direction) : List Form → Layout → Option Layout
  | [], l => some l
  | f :: r, l => do layOutAll d r (← f.layOut d l)

/-- Lays out a sequence from its last part to its first. -/
def layOutBack (d : Direction) : List Form → Layout → Option Layout
  | [], l => some l
  | f :: r, l => do f.layOut d (← layOutBack d r l)

/-- Two branches come before the states where all part and meet, and any others behind these. -/
def layOutChoice (d : Direction) : List Form → Layout → Option Layout
  | f :: g :: r, l => do
    let l ← g.layOut d (← f.layOut d l)
    layOutAll d r ((l.state (4 * (r.length + 2))).plain 1)
  | _, l => some l

end

mutual

/-- Whether every match stands at the end of the text where the layout begins to read. -/
def isPinned (d : Direction) : Form → Bool
  | anchor a => match d with
    | .forward => a == .textStart
    | .backward => a == .textEnd
  | group f => f.isPinned d
  | times f least _ _ => 0 < least && f.isPinned d
  | seq parts => match d with
    | .forward => anyPinned d parts
    | .backward => anyPinnedBack d parts
  | either branches => allPinned d branches
  | _ => false

/-- Whether the first part that is not hollow, or one before it, is pinned. -/
def anyPinned (d : Direction) : List Form → Bool
  | [] => false
  | f :: r => f.isPinned d || (f.longest = some 0 && anyPinned d r)

/-- Whether the last part that is not hollow, or one behind it, is pinned. -/
def anyPinnedBack (d : Direction) : List Form → Bool
  | [] => false
  | f :: r => anyPinnedBack d r || (r.all (·.longest = some 0) && f.isPinned d)

def allPinned (d : Direction) : List Form → Bool
  | [] => true
  | f :: r => f.isPinned d && allPinned d r

end

/-- Lays out a whole form: any bytes may come before a match unless it is pinned, and forward the
places of the match are noted. -/
def layout? (f : Form) (d : Direction) : Option Layout := do
  let start : Layout := if f.isPinned d then ⟨1, 0⟩ else ⟨3, 16⟩
  match d with
  | .forward => ((← f.layOut d (start.plain 1)).plain 2).fit
  | .backward => ((← f.layOut d start).plain 1).fit

def isSmall (f : Form) : Bool := (f.layout? .forward).isSome && (f.layout? .backward).isSome

end Form

end ScreenAgent.Pattern
