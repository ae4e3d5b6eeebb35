import ScreenCapture.Json.Error

namespace ScreenCapture

/-- Why a file cannot be read as text. -/
inductive ReadFailure
  | notFound | isDirectory | notDirectory | permissionDenied | nameTooLong | nulInPath | notText
  /-- Any other answer of the operating system. -/
  | system (message : String)
  deriving DecidableEq

def ReadFailure.message : ReadFailure → String
  | notFound => "No such file or directory (os error 2)"
  | isDirectory => "Is a directory (os error 21)"
  | notDirectory => "Not a directory (os error 20)"
  | permissionDenied => "Permission denied (os error 13)"
  | nameTooLong => "File name too long (os error 36)"
  | nulInPath => "file name contained an unexpected NUL byte"
  | notText => "stream did not contain valid UTF-8"
  | system message => message

/-- Why settings are not accepted. -/
inductive ConfigError
  /-- A text that describes no projection. -/
  | projection (text : String)
  | json (error : JsonError)
  | unreadable (path : String) (failure : ReadFailure)

def ConfigError.cause : ConfigError → String
  | projection text => "invalid projection " ++ Text.quoted text
  | json error => error.message
  | unreadable path failure => "unable to read " ++ path ++ ": " ++ failure.message

def ConfigError.message (e : ConfigError) : String := "Invalid configuration: " ++ e.cause

end ScreenCapture
