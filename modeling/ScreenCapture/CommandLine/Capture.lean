import ScreenCapture.Capture.Controller
import ScreenCapture.CommandLine.Arguments

namespace ScreenCapture.CommandLine

/-- What a run of the capture has come to. -/
structure Tally where
  consumed : Nat
  bytes : Nat
  timeouts : Nat
  first : Option Frame

namespace Tally

def start : Tally := ⟨0, 0, 0, none⟩

def add (t : Tally) (frame : Frame) : Tally :=
  { t with consumed := t.consumed + 1, bytes := t.bytes + frame.size.toNat,
           first := t.first.or (some frame) }

end Tally

/-- How a run ends. -/
inductive Ending
  | finished
  | failed (error : CaptureError)
  /-- Frames are still missing after as many waits as were looked at. -/
  | unfinished

/-- Waits for a frame, with the bound that is set, if any. -/
def waitOnce (timeout : Option Nat) (arrives : Bool) (k : Controller) (c : Compositor) :
    Except CaptureError Bool × Controller × Compositor :=
  match timeout with
  | some _ => k.waitForFrameTimeout arrives c
  | none => k.waitForFrame c

/-- What one pass through the loop comes to. -/
inductive Turn
  /-- No frame came in time. -/
  | late
  | lockFailed
  | captured (frame : Frame)
  | failed (error : CaptureError)

/-- Waits for a frame, and consumes it. -/
def turn (timeout : Option Nat) (arrives : Bool) (k : Controller) (c : Compositor) :
    Turn × Controller × Compositor :=
  match waitOnce timeout arrives k c with
  | (.error e, k, c) => (.failed e, k, c)
  | (.ok false, k, c) => (.late, k, c)
  | (.ok true, k, c) =>
    match k.consume c with
    | (.error (.lockFailed _), k, c) => (.lockFailed, k, c)
    | (.error e, k, c) => (.failed e, k, c)
    | (.ok frame, k, c) => (.captured frame, k, c)

def Tally.note (t : Tally) : Turn → Tally
  | .late => { t with timeouts := t.timeouts + 1 }
  | .captured frame => t.add frame
  | .lockFailed | .failed _ => t

/-- Consumes frames up to the limit, in at most `fuel` waits. A failed lock is tried again. -/
def captureFrames (timeout : Option Nat) (limit : Nat) (arrives : Nat → Bool) :
    Nat → Nat → Tally → Controller → Compositor → Ending × Tally × Controller × Compositor
  | 0, _, t, k, c => (if limit ≤ t.consumed then .finished else .unfinished, t, k, c)
  | fuel + 1, round, t, k, c =>
    if limit ≤ t.consumed then (.finished, t, k, c)
    else
      match turn timeout (arrives round) k c with
      | (.failed e, k, c) => (.failed e, t, k, c)
      | (done, k, c) => captureFrames timeout limit arrives fuel (round + 1) (t.note done) k c

/-- What the program prints, and with which code it ends. -/
structure Outcome where
  exitCode : UInt8
  output : String
  log : List String
  errors : List String

namespace Outcome

def success (log : List String) : Outcome := ⟨0, "", log, []⟩

/-- Ends with an error, and what was being done when it came up. -/
def failure (log : List String) (activity : Option String) (e : CaptureError) : Outcome :=
  let lines := match activity with
    | none => ["Error: " ++ e.message]
    | some activity =>
      ["Error: " ++ activity, "", "Caused by:", "    " ++ e.message.replace "\n" "\n    "]
  ⟨1, "", log, lines⟩

def rejected (e : UsageError) : Outcome :=
  ⟨2, "", [], [e.message, "", "For more information, try '--help'."]⟩

def shown (n : Notice) : Outcome := ⟨0, n.text, [], []⟩

end Outcome

/-- Reals in the log are written without an exponent from 0.0001 up to sixteen digits before the
point. -/
def logReal : Text.RealFormat := ⟨-4, 15, false⟩

def realText (x : Float32) : String := Text.realText logReal x.toFloat

def foundText (id : Int32) (info : DisplayInfo) : String :=
  s!"Found display display_id={id.toInt} width={info.width} height={info.height} " ++
    "fps=" ++ realText info.fps ++ " size_inches=" ++ realText info.size

def firstFrameText (frame : Frame) : String :=
  let count := frame.header.encode.length
  "First frame: " ++ frame.text ++ s!" header_bytes={count}"

def finishedText (s : CaptureStats) : String :=
  s!"Capture finished frames={s.framesConsumed} lock_failures={s.lockFailures}"

/-- A compositor that renders at the configured rate. -/
def compositorFor (config : CaptureConfig) : Compositor :=
  (Compositor.ofPanels Compositor.standardPanels
    (Compositor.intervalOfRate config.simulatedFps.toNat)).startPool

/-- A capture of the geometry of a projection, not applied yet. -/
def configured (id : Int32) (p : Mirroring) : Except CaptureError Controller :=
  match (Controller.new id).setReal p.realInfo with
  | (.error e, _) => .error e
  | (.ok (), k) =>
    match k.setDesired p.desiredInfo with
    | (.error e, _) => .error e
    | (.ok (), k) => .ok k

/-- Finds the display and sets its output up: what is logged until the loop begins, and what it
begins with; or how the program ends instead. -/
def setUp (config : CaptureConfig) (log : List String) :
    Except (Outcome × Compositor) (List String × Controller × Compositor) :=
  match (compositorFor config).probe config.displayId with
  | (.error e, c) => .error (.failure log (some "probing display") e, c)
  | (.ok info, c) =>
    let projection := config.mirroringFor info
    let log := log ++ [foundText config.displayId info,
      "Starting capture projection=" ++ projection.text]
    match configured config.displayId projection with
    | .error e => .error (.failure log none e, c)
    | .ok k =>
      match k.apply c with
      | (.error e, k, c) =>
        .error (.failure log (some "creating virtual display") e, (k.release c).2)
      | (.ok (), k, c) => .ok (log, k, c)

/-- Captures frames with the given settings, and gives everything back. -/
def capture (config : CaptureConfig) (log : List String) (arrives : Nat → Bool) (fuel : Nat) :
    Outcome × Compositor :=
  match setUp config log with
  | .error stopped => stopped
  | .ok (log, k, c) =>
    let (ending, tally, k, c) :=
      captureFrames config.waitTimeout config.frameLimit.toNat arrives fuel 0 .start k c
    let log := log ++ (tally.first.map firstFrameText).toList
    let (k, c) := k.release c
    match ending with
    | .failed e => (.failure log none e, c)
    | .finished => (.success (log ++ [finishedText k.stats]), c)
    | .unfinished => (.success log, c)

/-- A file with settings: its path, and what reading it gave. -/
abbrev ConfigFile := String × Except ReadFailure String

/-- The settings of a run, and what is logged about them: those of the file, or the standard ones,
changed by the arguments. -/
def effective (o : Overrides) : Option ConfigFile →
    Except (String × CaptureError) (CaptureConfig × List String)
  | none => .ok (o.apply .standard, ["No config given, using defaults"])
  | some (path, contents) =>
    match CaptureConfig.ofFile path contents with
    | .ok config => .ok (o.apply config, [])
    | .error e => .error ("loading " ++ path, .invalidConfig e)

/-- Runs a capture, in which up to so many waits may be in vain. There is no compositor before the
settings are accepted. -/
def attempt (o : Overrides) (file : Option ConfigFile) (arrives : Nat → Bool) (late : Nat) :
    Outcome × Option Compositor :=
  match effective o file with
  | .error (activity, e) => (.failure [] (some activity) e, none)
  | .ok (config, log) =>
    let (outcome, c) := capture config log arrives (config.frameLimit.toNat + late)
    (outcome, some c)

/-- Runs a capture for which every wait is served. -/
def run (o : Overrides) (file : Option ConfigFile) : Outcome := (attempt o file (fun _ => true) 0).1

/-- Runs the program on its arguments; files are read by `read`. -/
def program {m : Type → Type} [Monad m] (read : String → m (Except ReadFailure String))
    (arguments : List String) : m Outcome :=
  match parse arguments with
  | .error e => pure (.rejected e)
  | .ok (.show n) => pure (.shown n)
  | .ok (.capture o) =>
    match o.configPath with
    | none => pure (run o none)
    | some path => do return run o (some (path, ← read path))

end ScreenCapture.CommandLine
