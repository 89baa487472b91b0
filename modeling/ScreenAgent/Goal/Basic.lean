import ScreenAgent.Pattern.Reader
import ScreenAgent.Screen.Snapshot
import ScreenAgent.Text.Quoted

namespace ScreenAgent

structure WrittenPattern where
  source : String
  pattern : Pattern
  reads : Pattern.read source.toList = .ok pattern

namespace WrittenPattern

def ofSource (source : String) : Except Pattern.Fault WrittenPattern :=
  match h : Pattern.read source.toList with
  | .ok pattern => .ok ⟨source, pattern, h⟩
  | .error e => .error e

def matchesIn (p : WrittenPattern) (text : String) : Bool := p.pattern.matchesIn text.toList

end WrittenPattern

inductive Target
  /-- By identifier, in full or in short. -/
  | byId (id : String)
  /-- By text, without white space around it and up to the case of ASCII letters. -/
  | byText (text : String)
  /-- By a pattern that its text matches, or else its identifier. -/
  | byPattern (pattern : WrittenPattern)

namespace Target

def isMatch (t : Target) (e : Element) : Bool :=
  match t with
  | .byId id => e.hasIdentifier id
  | .byText text => Text.sameAsciiCase (Text.trim e.text.toList) (Text.trim text.toList)
  | .byPattern p => p.matchesIn e.text || e.identifier.any p.matchesIn

def display : Target → String
  | .byId id => "id=" ++ id
  | .byText text => "text=" ++ String.ofList (Text.quoted text.toList)
  | .byPattern p => "pattern=/" ++ p.source ++ "/"

end Target

inductive Intent
  | click
  | setText (text : String)
deriving DecidableEq

structure Step where
  target : Target
  intent : Intent

namespace Step

def isCapable (s : Step) (e : Element) : Bool :=
  match s.intent with
  | .click => e.clickable
  | .setText _ => e.editable

def accepts (s : Step) (e : Element) : Bool := s.isCapable e && s.target.isMatch e

def display (s : Step) : String :=
  match s.intent with
  | .click => "click " ++ s.target.display
  | .setText text =>
    "type " ++ String.ofList (Text.quoted text.toList) ++ " into " ++ s.target.display

end Step

structure Goal where
  steps : List Step

namespace Goal

def empty : Goal := ⟨[]⟩

def size (g : Goal) : Nat := g.steps.length

end Goal

end ScreenAgent
