namespace ScreenAgent.CommandLine

def isOption (argument : String) : Bool := ['-', '-'].isPrefixOf argument.toList

/-- The argument behind the first one that is `flag`. -/
def flagValue? (flag : String) : List String → Option String
  | [] => none
  | a :: r => if a = flag then r.head? else flagValue? flag r

def goalSteps : List String → List String
  | [] => []
  | [a] => if isOption a then [] else [a]
  | a :: b :: r =>
    if a = "--connect" then goalSteps r
    else if isOption a then goalSteps (b :: r)
    else a :: goalSteps (b :: r)

structure Options where
  connect : Option String
  listDevices : Bool
  dump : Bool
  saveSettings : Bool
  steps : List String
deriving DecidableEq

def Options.ofArguments (arguments : List String) : Options where
  connect := flagValue? "--connect" arguments
  listDevices := arguments.contains "--list-devices"
  dump := arguments.contains "--dump"
  saveSettings := arguments.contains "--save-settings"
  steps := goalSteps arguments

def usage : String := "\n".intercalate [
  "Usage: ui-agent [OPTIONS] <STEP>...",
  "",
  "Steps:",
  "  click:<id>            click the first clickable element with this resource id",
  "  click-text:<text>     click the first clickable element showing this text",
  "  click-re:<regex>      click the first clickable element whose text or id matches",
  "  type:<id>=<text>      enter text into the first editable element with this id",
  "",
  "Options:",
  "  --connect <addr>      connect to a device over TCP/IP (host[:port]) and use it",
  "  --list-devices        list attached adb devices and exit",
  "  --dump                print the current snapshot as JSON and exit",
  "  --save-settings       persist the effective settings and continue"]

end ScreenAgent.CommandLine
