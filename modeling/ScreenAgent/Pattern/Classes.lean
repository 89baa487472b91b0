import ScreenAgent.Pattern.Basic
import ScreenAgent.Unicode.Age
import ScreenAgent.Unicode.Break
import ScreenAgent.Unicode.CaseFolding
import ScreenAgent.Unicode.Script

namespace ScreenAgent.Pattern

open Unicode (Ranges)

def category (names : List String) : Ranges := Ranges.unionOf Unicode.categoryTable names

def letterClass (c : Char) : Ranges :=
  match c with
  | 'd' => category ["nd"]
  | 's' => Ranges.unionOf Unicode.propertyTable ["whitespace"]
  | _ => Unicode.wordRanges

def asciiLetterClass (c : Char) : Ranges :=
  match c with
  | 'd' => [(0x30, 0x39)]
  | 's' => [(0x09, 0x0D), (0x20, 0x20)]
  | _ => Unicode.asciiWordRanges

def asciiClass? : String → Option Ranges
  | "alnum" => some [(0x30, 0x39), (0x41, 0x5A), (0x61, 0x7A)]
  | "alpha" => some [(0x41, 0x5A), (0x61, 0x7A)]
  | "ascii" => some [(0x00, 0x7F)]
  | "blank" => some [(0x09, 0x09), (0x20, 0x20)]
  | "cntrl" => some [(0x00, 0x1F), (0x7F, 0x7F)]
  | "digit" => some [(0x30, 0x39)]
  | "graph" => some [(0x21, 0x7E)]
  | "lower" => some [(0x61, 0x7A)]
  | "print" => some [(0x20, 0x7E)]
  | "punct" => some [(0x21, 0x2F), (0x3A, 0x40), (0x5B, 0x60), (0x7B, 0x7E)]
  | "space" => some [(0x09, 0x0D), (0x20, 0x20)]
  | "upper" => some [(0x41, 0x5A)]
  | "word" => some Unicode.asciiWordRanges
  | "xdigit" => some [(0x30, 0x39), (0x41, 0x46), (0x61, 0x66)]
  | _ => none

/-- A name as the tables spell it. Only its ASCII characters count. -/
def plainName (name : List Char) : String :=
  let spelled (s : List Char) : List Char :=
    (s.filter fun c => c.toNat < 128 && c != ' ' && c != '_' && c != '-').map Char.toLower
  match name with
  | i :: s :: r =>
    if i.toLower == 'i' && s.toLower == 's' then
      if spelled r == ['c'] then "isc" else String.ofList (spelled r)
    else String.ofList (spelled name)
  | _ => String.ofList (spelled name)

/-- General categories that gather others. -/
def gatheredCategory? : String → Option (List String)
  | "c" | "other" => some ["cc", "cf", "cn", "co"]
  | "l" | "letter" => some ["ll", "lm", "lo", "lt", "lu"]
  | "lc" | "casedletter" => some ["ll", "lt", "lu"]
  | "m" | "mark" | "combiningmark" => some ["mc", "me", "mn"]
  | "n" | "number" => some ["nd", "nl", "no"]
  | "p" | "punctuation" | "punct" => some ["pc", "pd", "pe", "pf", "pi", "po", "ps"]
  | "s" | "symbol" => some ["sc", "sk", "sm", "so"]
  | "z" | "separator" => some ["zl", "zp", "zs"]
  | _ => none

def category? (name : String) : Option Ranges :=
  match name with
  | "any" => some [(0, Ranges.last)]
  | "ascii" => some [(0x00, 0x7F)]
  | "assigned" => some (category ["cn"]).complement
  | _ => match gatheredCategory? name with
    | some names => some (category names)
    | none => Ranges.named? Unicode.categoryTable name

/-- The set that a single name stands for: a property, a category or a script. Three categories have
names that properties of letters have too, and keep them. -/
def namedSet? (name : List Char) : Option Ranges :=
  let n := plainName name
  let property := if ["cf", "sc", "lc"].contains n then none else Ranges.named? Unicode.propertyTable n
  property.or ((category? n).or (Ranges.named? Unicode.scriptTable n))

def valuedSet? (property value : List Char) : Option Ranges :=
  let v := plainName value
  match plainName property with
  | "gc" | "generalcategory" => category? v
  | "sc" | "script" => Ranges.named? Unicode.scriptTable v
  | "scx" | "scriptextensions" => Ranges.named? Unicode.extensionTable v
  | "age" => Unicode.ofAge? v
  | "gcb" | "graphemeclusterbreak" => Ranges.named? Unicode.clusterBreakTable v
  | "wb" | "wordbreak" => Ranges.named? Unicode.wordBreakTable v
  | "sb" | "sentencebreak" => Ranges.named? Unicode.sentenceBreakTable v
  | _ => none

end ScreenAgent.Pattern
