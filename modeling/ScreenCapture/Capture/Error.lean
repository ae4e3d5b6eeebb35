import ScreenCapture.Config.Error
import ScreenCapture.Status

namespace ScreenCapture

/-- Life of a capture. -/
inductive CaptureState
  /-- Nothing configured yet. -/
  | idle
  /-- Geometry is set, and no virtual display runs. -/
  | configured
  /-- A display runs, and no frame is announced. -/
  | awaitingFrame
  /-- A frame is announced and can be consumed. -/
  | frameReady
  /-- Everything is given back, for good. -/
  | released
  deriving DecidableEq, Inhabited

namespace CaptureState

def name : CaptureState → String
  | idle => "Idle"
  | configured => "Configured"
  | awaitingFrame => "AwaitingFrame"
  | frameReady => "FrameReady"
  | released => "Released"

/-- Whether a virtual display stands behind the state. -/
def isRunning : CaptureState → Bool
  | awaitingFrame | frameReady => true
  | idle | configured | released => false

end CaptureState

/-- Operations that not every state allows. -/
inductive CaptureOperation
  | setDesired | setReal | apply | wait | waitTimeout | consume
  deriving DecidableEq

def CaptureOperation.name : CaptureOperation → String
  | setDesired => "set_desired_info"
  | setReal => "set_real_info"
  | apply => "apply_config_changes"
  | wait => "wait_for_frame"
  | waitTimeout => "wait_for_frame_timeout"
  | consume => "consume_pending_frame"

/-- The stages of setting up a virtual display. -/
inductive SetupStep
  | geometry | newQueue | queueSettings | newReader | newDisplay | publication
  deriving DecidableEq

def SetupStep.name : SetupStep → String
  | geometry => "geometry validation"
  | newQueue => "buffer queue creation"
  | queueSettings => "buffer queue configuration"
  | newReader => "CPU consumer creation"
  | newDisplay => "virtual display creation"
  | publication => "display publication"

/-- Why a capture fails. Status codes appear by name only. -/
inductive CaptureError
  | serviceUnavailable (status : StatusName)
  | displayNotFound (id : Int32)
  | setupFailed (step : SetupStep) (status : StatusName)
  | lockFailed (status : StatusName)
  | invalidState (operation : CaptureOperation) (state : CaptureState)
  | invalidConfig (error : ConfigError)

def CaptureError.message : CaptureError → String
  | serviceUnavailable status => "Compositor service unavailable: " ++ status.text
  | displayNotFound id => s!"Display not found: {id.toInt}"
  | setupFailed step status =>
    "Virtual display setup failed during " ++ step.name ++ ": " ++ status.text
  | lockFailed status => "Unable to lock next buffer: " ++ status.text
  | invalidState operation state => operation.name ++ " is not valid in state " ++ state.name
  | invalidConfig error => error.message

end ScreenCapture
