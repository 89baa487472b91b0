import ScreenAgent.Text.Blank
import ScreenAgent.Text.Integer

namespace ScreenAgent

structure Date where
  year : Int
  month : Nat
  day : Nat
deriving DecidableEq

namespace Date

def isLeap (year : Int) : Bool := year % 4 == 0 && (year % 100 != 0 || year % 400 == 0)

def daysIn (year : Int) (month : Nat) : Nat :=
  if month = 2 then (if isLeap year then 29 else 28)
  else if month = 4 ∨ month = 6 ∨ month = 9 ∨ month = 11 then 30 else 31

def isValid (d : Date) : Bool :=
  -262143 ≤ d.year && d.year ≤ 262142 && 1 ≤ d.month && d.month ≤ 12 && 1 ≤ d.day &&
    d.day ≤ daysIn d.year d.month

def next (d : Date) : Date :=
  if d.day < daysIn d.year d.month then { d with day := d.day + 1 }
  else if d.month < 12 then ⟨d.year, d.month + 1, 1⟩
  else ⟨d.year + 1, 1, 1⟩

def previous (d : Date) : Date :=
  if 1 < d.day then { d with day := d.day - 1 }
  else if 1 < d.month then ⟨d.year, d.month - 1, daysIn d.year (d.month - 1)⟩
  else ⟨d.year - 1, 12, 31⟩

end Date

structure Timestamp where
  date : Date
  hour : Nat
  minute : Nat
  second : Nat
  nano : Nat
  valid : date.isValid = true ∧ hour < 24 ∧ minute < 60 ∧ second ≤ 60 ∧ nano < 1000000000
deriving DecidableEq

namespace Timestamp

def make? (date : Date) (hour minute second nano : Nat) : Option Timestamp :=
  if h : date.isValid = true ∧ hour < 24 ∧ minute < 60 ∧ second ≤ 60 ∧ nano < 1000000000 then
    some ⟨date, hour, minute, second, nano, h⟩
  else none

instance : Inhabited Timestamp := ⟨⟨⟨1970, 1, 1⟩, 0, 0, 0, 0, by decide⟩⟩

/-- The moment so many nanoseconds after the beginning of 1970. -/
def ofNanoseconds (n : Nat) : Timestamp :=
  let seconds := n / 1000000000
  let date := Nat.repeat Date.next (seconds / 86400) ⟨1970, 1, 1⟩
  (make? date (seconds / 3600 % 24) (seconds / 60 % 60) (seconds % 60) (n % 1000000000)).getD default

/-- The moment at which a place that is `offset` minutes ahead shows this date and time. -/
def ofLocal? (date : Date) (hour minute second nano : Nat) (offset : Int) : Option Timestamp := do
  let shown ← make? date hour minute second nano
  let minutes : Int := shown.hour * 60 + shown.minute - offset
  let date := if minutes < 0 then date.previous else if 1440 ≤ minutes then date.next else date
  let minutes := (minutes % 1440).toNat
  make? date (minutes / 60) (minutes % 60) second nano

/-- The sign of a year and its digits, at least four of them; years that fit four digits have no
sign. -/
def yearText (year : Int) : List Char :=
  if 0 ≤ year ∧ year ≤ 9999 then Text.padded 4 year.toNat
  else (if year < 0 then '-' else '+') :: Text.padded 4 year.natAbs

/-- The fraction of a second in no, three, six or nine digits, as few as tell it. -/
def fractionText (nano : Nat) : List Char :=
  if nano = 0 then []
  else if nano % 1000000 = 0 then '.' :: Text.padded 3 (nano / 1000000)
  else if nano % 1000 = 0 then '.' :: Text.padded 6 (nano / 1000)
  else '.' :: Text.padded 9 nano

def toText (t : Timestamp) : List Char :=
  yearText t.date.year ++ '-' :: Text.padded 2 t.date.month ++ '-' :: Text.padded 2 t.date.day ++
    'T' :: Text.padded 2 t.hour ++ ':' :: Text.padded 2 t.minute ++ ':' :: Text.padded 2 t.second ++
    fractionText t.nano ++ ['Z']

/-- Up to so many digits, at least one, after white space. -/
def digits? (most : Nat) (s : List Char) : Option (Nat × List Char) :=
  let s := Text.trimStart s
  let ds := (s.take most).takeWhile Text.isDigit
  (Text.decimal? ds).map fun n => (n, s.drop ds.length)

/-- A year of up to four digits, or of any number of digits after a sign. -/
def year? (s : List Char) : Option (Int × List Char) :=
  match Text.trimStart s with
  | '-' :: r => (signed r).map fun p => (-(p.1 : Int), p.2)
  | '+' :: r => (signed r).map fun p => ((p.1 : Int), p.2)
  | r => (digits? 4 r).map fun p => ((p.1 : Int), p.2)
where
  signed (r : List Char) : Option (Nat × List Char) :=
    let ds := r.takeWhile Text.isDigit
    (Text.decimal? ds).map fun n => (n, r.drop ds.length)

/-- A character that has to come next, after white space. -/
def mark? (c : Char) (s : List Char) : Option (List Char) :=
  match Text.trimStart s with
  | d :: r => if d = c then some r else none
  | [] => none

/-- A fraction of a second after a point; digits past the ninth are dropped. -/
def fraction? : List Char → Option (Nat × List Char)
  | '.' :: r =>
    let ds := r.takeWhile Text.isDigit
    (Text.decimal? ((ds.take 9) ++ List.replicate (9 - ds.length) '0')).bind fun n =>
      if ds = [] then none else some (n, r.drop ds.length)
  | r => some (0, r)

def twoDigits? (s : List Char) : Option (Nat × List Char) :=
  match s with
  | a :: b :: r => (Text.decimal? [a, b]).map fun n => (n, r)
  | _ => none

/-- An offset from universal time in minutes: a letter or three that stand for none, or a sign, hours
and minutes. -/
def offset? (s : List Char) : Option (Int × List Char) := do
  match s with
  | 'Z' :: r | 'z' :: r => return (0, r)
  | _ => pure ()
  if (s.take 3).map Char.toUpper == ['U', 'T', 'C'] then return (0, s.drop 3)
  let (negative, r) ← match s with
    | '+' :: r => some (false, r)
    | '-' :: r => some (true, r)
    | '−' :: r => some (true, r)
    | _ => none
  let (hours, r) ← twoDigits? r
  let (minutes, r) ← twoDigits? (r.dropWhile fun c => c == ':' || Text.isBlank c)
  if minutes < 60 ∧ hours < 24 then
    let size : Int := hours * 60 + minutes
    return (if negative then -size else size, r)
  else none

def ofText? (s : List Char) : Option Timestamp := do
  let (year, r) ← year? s
  let (month, r) ← digits? 2 (← mark? '-' r)
  let (day, r) ← digits? 2 (← mark? '-' r)
  let r ← match r with
    | 't' :: r | 'T' :: r | ' ' :: r => some r
    | _ => none
  let (hour, r) ← digits? 2 r
  let (minute, r) ← digits? 2 (← mark? ':' r)
  let (second, r) ← digits? 2 (← mark? ':' r)
  let (nano, r) ← fraction? r
  let (offset, r) ← offset? (Text.trimStart r)
  if Text.trimStart r ≠ [] then none
  ofLocal? ⟨year, month, day⟩ hour minute second nano offset

end Timestamp

end ScreenAgent
