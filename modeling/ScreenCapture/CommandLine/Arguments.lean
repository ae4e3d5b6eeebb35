import ScreenCapture.CommandLine.Usage
import ScreenCapture.Config.Basic
import ScreenCapture.Text.Blank

namespace ScreenCapture.CommandLine

/-- What the arguments say about the capture. -/
structure Overrides where
  configPath : Option String
  displayId : Option Int32
  frames : Option UInt64
  fps : Option UInt32
  projection : Option Mirroring
  waitTimeoutMs : Option UInt64
  deriving DecidableEq

namespace Overrides

def none : Overrides := ⟨.none, .none, .none, .none, .none, .none⟩

def has (o : Overrides) : Flag → Bool
  | .displayId => o.displayId.isSome
  | .frames => o.frames.isSome
  | .fps => o.fps.isSome
  | .projection => o.projection.isSome
  | .waitTimeoutMs => o.waitTimeoutMs.isSome

/-- The settings of a file, or the standard ones, as the arguments change them. -/
def apply (o : Overrides) (c : CaptureConfig) : CaptureConfig :=
  { displayId := o.displayId.getD c.displayId
    projection := o.projection.or c.projection
    frameLimit := o.frames.getD c.frameLimit
    waitTimeoutMs := o.waitTimeoutMs.or c.waitTimeoutMs
    simulatedFps := o.fps.getD c.simulatedFps }

end Overrides

/-- Reads a signed number of 64 bits that has to lie in a narrower range. -/
def readRanged (low high : Int) (s : String) : Except String Int :=
  match Text.readSigned 9223372036854775807 s.toList with
  | .error e => .error e.message
  | .ok i =>
    if low ≤ i ∧ i ≤ high then .ok i
    else
      let text (i : Int) : String := String.ofList (Text.signedDecimal i)
      .error (text i ++ " is not in " ++ text low ++ "..=" ++ text high)

def readUInt64 (s : String) : Except String UInt64 :=
  match Text.readUnsigned 18446744073709551615 s.toList with
  | .error e => .error e.message
  | .ok n => .ok (UInt64.ofNat n)

/-- Reads the value of an option. -/
def readValue (o : Overrides) (flag : Flag) (s : String) : Except String Overrides :=
  match flag with
  | .displayId => (readRanged (-2147483648) 2147483647 s).map fun i =>
      { o with displayId := some (Int32.ofInt i) }
  | .frames => (readUInt64 s).map fun n => { o with frames := some n }
  | .fps => (readRanged 0 4294967295 s).map fun i => { o with fps := some (UInt32.ofNat i.toNat) }
  | .projection =>
    match Mirroring.parse s with
    | .ok p => .ok { o with projection := some p }
    | .error e => .error e.message
  | .waitTimeoutMs => (readUInt64 s).map fun n => { o with waitTimeoutMs := some n }

/-- Takes the value of an option, which may be given once. -/
def store (o : Overrides) (flag : Flag) (s : String) : Except UsageError Overrides :=
  if o.has flag then .error (.repeated flag)
  else
    match readValue o flag s with
    | .ok o => .ok o
    | .error reason => .error (.invalidValue s flag reason)

/-- An argument that is not looked at more closely before the next one is known. -/
inductive Pending
  | nothing
  | flag (flag : Flag)
  | value (flag : Flag) (value : String)
  | config (path : String)
  deriving DecidableEq

/-- What is read so far. -/
structure Progress where
  overrides : Overrides
  pending : Pending
  deriving DecidableEq

namespace Progress

def start : Progress := ⟨.none, .nothing⟩

/-- Takes the pending argument into account. -/
def settle (p : Progress) : Except UsageError Overrides :=
  match p.pending with
  | .nothing => .ok p.overrides
  | .flag flag => .error (.missingValue flag.usage)
  | .value flag s => store p.overrides flag s
  | .config path =>
    if path.isEmpty then .error (.missingValue configUsage)
    else .ok { p.overrides with configPath := some path }

def hasConfig (p : Progress) : Bool :=
  p.overrides.configPath.isSome ||
    match p.pending with
    | .config _ => true
    | _ => false

/-- The one argument that is no option names the file with the settings. -/
def positional (p : Progress) (s : String) : Except UsageError Progress :=
  if p.hasConfig then .error (.unexpectedArgument s)
  else p.settle.map fun o => ⟨o, .config s⟩

/-- An option, with the value attached to it, if any. -/
def long (p : Progress) (flag : Flag) (value : Option String) : Except UsageError Progress :=
  match p.settle with
  | .error e => .error e
  | .ok o =>
    match value with
    | none => .ok ⟨o, .flag flag⟩
    | some s => (store o flag s).map fun o => ⟨o, .nothing⟩

/-- An argument without leading dashes: the value that an option waits for, or else a file. -/
def plain (p : Progress) (s : String) : Except UsageError Progress :=
  match p.pending with
  | .flag flag => .ok { p with pending := .value flag s }
  | _ => p.positional s

end Progress

/-- What an argument looks like. -/
inductive Shape
  /-- Two dashes alone: everything after them is no option. -/
  | escape
  | long (name : String) (value : Option String)
  | letters (cs : List Char)
  | plain
  deriving DecidableEq

/-- A single dash is no option. -/
def shape (s : String) : Shape :=
  match s.toList with
  | ['-', '-'] => .escape
  | '-' :: '-' :: cs =>
    match Text.splitAt? '=' cs with
    | some (name, value) => .long (String.ofList name) (some (String.ofList value))
    | none => .long (String.ofList cs) none
  | '-' :: c :: cs => .letters (c :: cs)
  | _ => .plain

/-- What the program is asked to do. -/
inductive Request
  | capture (overrides : Overrides)
  | show (notice : Notice)

def notice (p : Progress) (n : Notice) : Except UsageError Request :=
  p.settle.map fun _ => .show n

/-- Arguments after two dashes. -/
def readPositionals (p : Progress) : List String → Except UsageError Request
  | [] => p.settle.map .capture
  | s :: rest =>
    match p.positional s with
    | .error e => .error e
    | .ok p => readPositionals p rest

/-- Reads the arguments one after another. The first fault is reported, but an unknown argument
before a fault in the argument that is still pending. -/
def readArguments (p : Progress) : List String → Except UsageError Request
  | [] => p.settle.map .capture
  | s :: rest =>
    match shape s with
    | .escape => readPositionals p rest
    | .letters cs =>
      match cs.head?.bind Notice.ofLetter? with
      | some n => notice p n
      | none => .error (.unexpectedArgument (String.ofList ('-' :: cs.take 1)))
    | .plain =>
      match p.plain s with
      | .error e => .error e
      | .ok p => readArguments p rest
    | .long name value =>
      match Flag.ofName? name, Notice.ofName? name, value with
      | some flag, _, value =>
        match p.long flag value with
        | .error e => .error e
        | .ok p => readArguments p rest
      | none, some n, none => notice p n
      | none, some n, some value => .error (.unexpectedValue value n)
      | none, none, _ => .error (.unexpectedArgument ("--" ++ name))

/-- Reads all arguments of the program. -/
def parse (arguments : List String) : Except UsageError Request := readArguments .start arguments

end ScreenCapture.CommandLine
