import ScreenCapture.Frame.Locked

namespace ScreenCapture

/-- A call to a source of buffers. -/
inductive SourceCall
  | lock
  | unlock (buffer : LockedBuffer)
  deriving DecidableEq

def SourceCall.text : SourceCall → String
  | lock => "lock"
  | unlock buffer => s!"unlock slot {buffer.slot} frame {buffer.number}"

/-- A source that answers from lists, and remembers how it was called. Once the list of locks is
used up there is no further buffer; once the list of unlocks is, they succeed. -/
structure Script where
  locks : List (Except Status LockedBuffer)
  unlocks : List (Except Status Unit)
  data : Thunk Bytes
  /-- Oldest first. -/
  calls : List SourceCall

namespace Script

def record (s : Script) (call : SourceCall) : Script := { s with calls := s.calls ++ [call] }

def lock (s : Script) : Except Status LockedBuffer × Script :=
  let s := s.record .lock
  match s.locks with
  | [] => (.error .notEnoughData, s)
  | answer :: locks => (answer, { s with locks })

def unlock (buffer : LockedBuffer) (s : Script) : Except Status Unit × Script :=
  let s := s.record (.unlock buffer)
  match s.unlocks with
  | [] => (.ok (), s)
  | answer :: unlocks => (answer, { s with unlocks })

def source : BufferSource Script where
  lock := lock
  data := data
  unlock := unlock

end Script

end ScreenCapture
