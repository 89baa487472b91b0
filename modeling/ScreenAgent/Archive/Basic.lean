import ScreenAgent.Json.Reader
import ScreenAgent.Json.Writer
import ScreenAgent.Learning.Experience
import ScreenAgent.Text.Utf8

namespace ScreenAgent

inductive Entry
  | absent
  | file (bytes : List UInt8)
  | directory
deriving DecidableEq, Inhabited

/-- An archive by what stands at its path, and whether a file stands where the directory around it
would have to be. -/
structure Archive where
  entry : Entry := .absent
  parentBlocked : Bool := false
deriving DecidableEq

inductive ArchiveError
  /-- A file stands where a directory has to be made. -/
  | fileExists
  /-- A directory stands where the file has to be. -/
  | isDirectory
  /-- A line is no text. -/
  | notText
deriving DecidableEq

namespace ArchiveError

def reason : ArchiveError → String
  | fileExists => "File exists (os error 17)"
  | isDirectory => "Is a directory (os error 21)"
  | notText => "stream did not contain valid UTF-8"

def message (e : ArchiveError) : String := "IO error: " ++ e.reason

end ArchiveError

namespace Archive

def fileName : String := "experiences.jsonl"

def line (e : Experience) : List Char := e.toJson.compact ++ ['\n']

def bytesOf (batch : List Experience) : List UInt8 := Text.Utf8.encode (batch.flatMap line)

/-- Appends a batch; the file and the directory around it are made where they are missing. -/
def append (a : Archive) (batch : List Experience) : Except ArchiveError Archive :=
  if a.parentBlocked then .error .fileExists
  else match a.entry with
    | .absent => .ok { a with entry := .file (bytesOf batch) }
    | .file bytes => .ok { a with entry := .file (bytes ++ bytesOf batch) }
    | .directory => .error .isDirectory

/-- The lines of a file without their endings. -/
def linesOf (bytes : List UInt8) : List (List UInt8) :=
  let dropReturn (l : List UInt8) := if l.getLast? = some 13 then l.dropLast else l
  let rec go (current : List UInt8) : List UInt8 → List (List UInt8)
    | [] => if current = [] then [] else [current.reverse]
    | b :: r => if b = 10 then dropReturn current.reverse :: go [] r else go (b :: current) r
  go [] bytes

def experience? (line : List Char) : Option Experience :=
  (Json.read? line).bind (Experience.ofJson? Json.levelLimit)

/-- Reads the experiences of lines in order. A line that is no text ends the reading. -/
def readLines : List (List UInt8) → Except ArchiveError (List Experience)
  | [] => .ok []
  | l :: r => match Text.Utf8.decode? l with
    | none => .error .notText
    | some text => (readLines r).map fun es => (experience? text).toList ++ es

/-- Reads an archive; one that does not exist is empty. -/
def load (a : Archive) : Except ArchiveError (List Experience) :=
  if a.parentBlocked then .ok []
  else match a.entry with
    | .absent => .ok []
    | .file bytes => readLines (linesOf bytes)
    | .directory => .error .isDirectory

end Archive

end ScreenAgent
