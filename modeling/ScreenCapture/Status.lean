namespace ScreenCapture

/-- Symbolic names of the status codes, safe to show outside the compositor. -/
inductive StatusName
  | noError | unknownError | noMemory | invalidOperation | badValue | badType | nameNotFound
  | permissionDenied | noInit | alreadyExists | deadObject | failedTransaction | badIndex
  | notEnoughData | wouldBlock | timedOut | unknownTransaction | fdsNotAllowed | unmapped
  deriving DecidableEq, Inhabited

def StatusName.text : StatusName → String
  | noError => "NO_ERROR"
  | unknownError => "UNKNOWN_ERROR"
  | noMemory => "NO_MEMORY"
  | invalidOperation => "INVALID_OPERATION"
  | badValue => "BAD_VALUE"
  | badType => "BAD_TYPE"
  | nameNotFound => "NAME_NOT_FOUND"
  | permissionDenied => "PERMISSION_DENIED"
  | noInit => "NO_INIT"
  | alreadyExists => "ALREADY_EXISTS"
  | deadObject => "DEAD_OBJECT"
  | failedTransaction => "FAILED_TRANSACTION"
  | badIndex => "BAD_INDEX"
  | notEnoughData => "NOT_ENOUGH_DATA"
  | wouldBlock => "WOULD_BLOCK"
  | timedOut => "TIMED_OUT"
  | unknownTransaction => "UNKNOWN_TRANSACTION"
  | fdsNotAllowed => "FDS_NOT_ALLOWED"
  | unmapped => "UNMAPPED_ERROR"

/-- Raw status code of the compositor or of a buffer queue. -/
structure Status where
  code : Int32
  deriving DecidableEq, Inhabited

namespace Status

def badValue : Status := ⟨-22⟩
def invalidOperation : Status := ⟨-38⟩
def nameNotFound : Status := ⟨-2⟩
def alreadyExists : Status := ⟨-17⟩
def noInit : Status := ⟨-19⟩
def deadObject : Status := ⟨-32⟩
def failedTransaction : Status := ⟨-2147483646⟩
def unknownTransaction : Status := ⟨-74⟩
def notEnoughData : Status := ⟨-61⟩

/-- The codes that have a name of their own. -/
def names : List (Int32 × StatusName) :=
  [(0, .noError), (-2147483648, .unknownError), (-12, .noMemory), (-38, .invalidOperation),
    (-22, .badValue), (-2147483647, .badType), (-2, .nameNotFound), (-1, .permissionDenied),
    (-19, .noInit), (-17, .alreadyExists), (-32, .deadObject), (-2147483646, .failedTransaction),
    (-75, .badIndex), (-61, .notEnoughData), (-11, .wouldBlock), (-110, .timedOut),
    (-74, .unknownTransaction), (-2147483641, .fdsNotAllowed)]

def name (s : Status) : StatusName := (names.lookup s.code).getD .unmapped

/-- Name and code, as `BAD_VALUE (-22)`. -/
def text (s : Status) : String := s!"{s.name.text} ({s.code.toInt})"

/-- Whether the connection to the service itself is gone. -/
def isConnectionFailure (s : Status) : Bool :=
  s = deadObject || s = noInit || s = failedTransaction || s = unknownTransaction

end Status

end ScreenCapture
