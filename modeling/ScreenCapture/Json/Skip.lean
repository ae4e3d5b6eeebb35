import ScreenCapture.Json.Number

namespace ScreenCapture.Json

/-- A list or an object that is open. -/
inductive Frame
  | list | object
  deriving DecidableEq

namespace Frame

def closing : Frame → Char
  | list => ']'
  | object => '\x7d'

def endMissing : Frame → JsonError
  | list => .expectedListEnd
  | object => .expectedObjectEnd

def endOfInput : Frame → JsonError
  | list => .endOfList
  | object => .endOfObject

end Frame

/-- A value that is no list and no object, passed over, or the opening of one that is. -/
def skipStart (s : List Char) : Except JsonError (Option Frame × List Char) :=
  let done (r : Except JsonError (List Char)) : Except JsonError (Option Frame × List Char) :=
    r.map fun s => (none, s)
  match s with
  | [] => .error .endOfValue
  | 'n' :: s => done (word ['u', 'l', 'l'] s)
  | 't' :: s => done (word ['r', 'u', 'e'] s)
  | 'f' :: s => done (word ['a', 'l', 's', 'e'] s)
  | '-' :: s => done (skipMagnitude s)
  | '"' :: s => done (skipString s)
  | '[' :: s => .ok (some .list, s)
  | '\x7b' :: s => .ok (some .object, s)
  | s => if startsWithDigit s then done (skipMagnitude s) else .error .expectedValue

/-- Passes over the key of a member and the colon after it. -/
def skipKey (s : List Char) : Except JsonError (List Char) :=
  match skipSpace s with
  | [] => .error .endOfObject
  | '"' :: s =>
    match skipString s with
    | .error e => .error e
    | .ok s =>
      match skipSpace s with
      | [] => .error .endOfObject
      | ':' :: s => .ok s
      | _ => .error .expectedColon
  | _ => .error .keyNotString

/-- Closes open frames, up to a comma or to the first value of a new frame. The frames that are
still open are left. -/
def closeFrames (comma : Bool) : Frame → List Frame → List Char →
    Except JsonError (List Frame × List Char)
  | frame, outer, s =>
    match skipSpace s with
    | [] => .error frame.endOfInput
    | c :: s =>
      if c = ',' ∧ comma then .ok (frame :: outer, s)
      else if c = frame.closing then
        match outer with
        | [] => .ok ([], s)
        | next :: outer => closeFrames true next outer s
      else if comma then .error frame.endMissing
      else .ok (frame :: outer, c :: s)
termination_by _ outer _ => outer.length

/-- Passes over values until every open frame is closed, in at most `fuel` steps. -/
def skipFrames : Nat → List Frame → List Char → Except JsonError (List Char)
  | 0, _, _ => .error .endOfValue
  | fuel + 1, frames, s =>
    match skipStart (skipSpace s) with
    | .error e => .error e
    | .ok (opened, s) =>
      let closed := match opened, frames with
        | some frame, outer => closeFrames false frame outer s
        | none, frame :: outer => closeFrames true frame outer s
        | none, [] => .ok ([], s)
      match closed with
      | .error e => .error e
      | .ok ([], s) => .ok s
      | .ok (.list :: outer, s) => skipFrames fuel (.list :: outer) s
      | .ok (.object :: outer, s) =>
        match skipKey s with
        | .error e => .error e
        | .ok s => skipFrames fuel (.object :: outer) s

/-- Passes over a value of any kind. -/
def skipValue (s : List Char) : Except JsonError (List Char) := skipFrames (s.length + 1) [] s

end ScreenCapture.Json
