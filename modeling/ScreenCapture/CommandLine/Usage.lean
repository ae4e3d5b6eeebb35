import ScreenCapture.Text.ControlSequence
import ScreenCapture.Text.Numeral

namespace ScreenCapture.CommandLine

/-- Options that take a value. -/
inductive Flag
  | displayId | frames | fps | projection | waitTimeoutMs
  deriving DecidableEq

namespace Flag

def all : List Flag := [displayId, frames, fps, projection, waitTimeoutMs]

def name : Flag → String
  | displayId => "display-id"
  | frames => "frames"
  | fps => "fps"
  | projection => "projection"
  | waitTimeoutMs => "wait-timeout-ms"

/-- How the value is called in the help. -/
def valueName : Flag → String
  | displayId => "DISPLAY_ID"
  | frames => "FRAMES"
  | fps => "FPS"
  | projection => "PROJECTION"
  | waitTimeoutMs => "WAIT_TIMEOUT_MS"

def about : Flag → String
  | displayId => "Built-in display to mirror"
  | frames => "Number of frames to capture"
  | fps => "Render rate of the simulated compositor"
  | projection => "Geometry as <rw>x<rh>@<vw>x<vh>/<degrees>, e.g. 1080x1920@540x960/0"
  | waitTimeoutMs => "Give up waiting for a frame after this many milliseconds"

def usage (f : Flag) : String := "--" ++ f.name ++ " <" ++ f.valueName ++ ">"

def ofName? (s : String) : Option Flag := all.find? (·.name = s)

end Flag

/-- Options that print something instead of capturing. -/
inductive Notice
  | help | version
  deriving DecidableEq

namespace Notice

def name : Notice → String
  | help => "help"
  | version => "version"

def letter : Notice → Char
  | help => 'h'
  | version => 'V'

def about : Notice → String
  | help => "Print help"
  | version => "Print version"

def all : List Notice := [help, version]

def ofName? (s : String) : Option Notice := all.find? (·.name = s)

def ofLetter? (c : Char) : Option Notice := all.find? (·.letter = c)

end Notice

/-- How the file with the settings is called in the help. -/
def configUsage : String := "[CONFIG]"

def programName : String := "capture-cli"

def versionText : String := programName ++ " 0.1.0\n"

/-- An option with its description on the next line. -/
def helpEntry (head about : String) : String := head ++ "\n          " ++ about ++ "\n"

def helpText : String :=
  "Capture frames of a display through a virtual display\n\nUsage: " ++ programName ++
    " [OPTIONS] " ++ configUsage ++ "\n\nArguments:\n  " ++ configUsage ++
    "  JSON capture config; defaults are used when omitted\n\nOptions:\n" ++
    String.join (Flag.all.map fun f => helpEntry ("      " ++ f.usage) f.about) ++
    String.join (Notice.all.map fun n =>
      helpEntry ("  -" ++ String.singleton n.letter ++ ", --" ++ n.name) n.about)

def Notice.text : Notice → String
  | help => helpText
  | version => versionText

/-- Why arguments are rejected. -/
inductive UsageError
  | unexpectedArgument (argument : String)
  /-- A value for an option that takes none. -/
  | unexpectedValue (value : String) (option : Notice)
  | missingValue (usage : String)
  | repeated (flag : Flag)
  | invalidValue (value : String) (flag : Flag) (reason : String)

/-- Arguments are shown between apostrophes, without what a terminal would obey. -/
def shown (argument : String) : String :=
  "'" ++ String.ofList (Text.visible argument.toList) ++ "'"

def UsageError.message : UsageError → String
  | unexpectedArgument argument => "error: unexpected argument " ++ shown argument ++ " found"
  | unexpectedValue value option =>
    "error: unexpected value " ++ shown value ++ " for '--" ++ option.name ++
      "' found; no more were expected"
  | missingValue usage => "error: a value is required for '" ++ usage ++ "' but none was supplied"
  | repeated flag => "error: the argument '" ++ flag.usage ++ "' cannot be used multiple times"
  | invalidValue value flag reason =>
    "error: invalid value " ++ shown value ++ " for '" ++ flag.usage ++ "': " ++ reason

end ScreenCapture.CommandLine
