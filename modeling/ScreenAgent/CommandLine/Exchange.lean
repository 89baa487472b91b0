import ScreenAgent.Bridge.Dialog
import ScreenAgent.Json.Reader
import ScreenAgent.Json.Record
import ScreenAgent.Json.Writer

namespace ScreenAgent

def requestLine (arguments : List String) : String := (Json.array (arguments.map .text)).toCompact

def Reply.ofLine? (line : String) : Option Reply := do
  let r ← (← Json.ofString? line).record? ["out", "err", "code"]
  let bytes (j : Json) : Option (List UInt8) := j.text?.map fun t => Text.Utf8.encode t.toList
  return {
    output := ← r.defaulted "out" [] bytes
    errors := ← r.defaulted "err" [] bytes
    status := ← r.defaulted "code" 0 Json.word? }

end ScreenAgent
