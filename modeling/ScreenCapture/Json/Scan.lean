import ScreenCapture.Json.Error

namespace ScreenCapture

/-- Reads a value from the front of a text, and leaves the rest. -/
abbrev JsonReader (α : Type) := List Char → Except JsonError (α × List Char)

namespace Json

def isSpace (c : Char) : Bool := c = ' ' || c = '\n' || c = '\t' || c = '\r'

def skipSpace (s : List Char) : List Char := s.dropWhile isSpace

/-- Takes the given characters, which complete a word that has begun. -/
def word : List Char → List Char → Except JsonError (List Char)
  | [], s => .ok s
  | _ :: _, [] => .error .endOfValue
  | w :: ws, c :: cs => if c = w then word ws cs else .error .expectedIdent

def hexDigit? (c : Char) : Option Nat :=
  if '0' ≤ c ∧ c ≤ '9' then some (c.toNat - 48)
  else if 'a' ≤ c ∧ c ≤ 'f' then some (c.toNat - 87)
  else if 'A' ≤ c ∧ c ≤ 'F' then some (c.toNat - 55)
  else none

/-- Bytes that the characters take in the text. -/
def byteCount (s : List Char) : Nat := (String.ofList s).utf8ByteSize

/-- Four hexadecimal digits. The text ends too early only if fewer than four bytes are left. -/
def hexUnit (s : List Char) : Except JsonError (Nat × List Char) :=
  if byteCount (s.take 4) < 4 then .error .endOfString
  else
    match s with
    | a :: b :: c :: d :: rest =>
      match hexDigit? a, hexDigit? b, hexDigit? c, hexDigit? d with
      | some a, some b, some c, some d => .ok (((a * 16 + b) * 16 + c) * 16 + d, rest)
      | _, _, _, _ => .error .invalidEscape
    | _ => .error .invalidEscape

def isLeading (unit : Nat) : Bool := 0xD800 ≤ unit && unit ≤ 0xDBFF

def isTrailing (unit : Nat) : Bool := 0xDC00 ≤ unit && unit ≤ 0xDFFF

/-- The second half of a pair of units, which must follow the first as an escape. -/
def trailingUnit : List Char → Except JsonError (Nat × List Char)
  | [] | ['\\'] => .error .endOfString
  | '\\' :: 'u' :: s =>
    match hexUnit s with
    | .error e => .error e
    | .ok (unit, s) => if isTrailing unit then .ok (unit, s) else .error .loneSurrogate
  | _ => .error .endOfHexEscape

/-- A character given by its number, in one unit or in two. -/
def unitEscape (s : List Char) : Except JsonError (Char × List Char) :=
  match hexUnit s with
  | .error e => .error e
  | .ok (unit, s) =>
    if isTrailing unit then .error .loneSurrogate
    else if isLeading unit then
      match trailingUnit s with
      | .error e => .error e
      | .ok (second, s) =>
        .ok (Char.ofNat ((unit - 0xD800) * 0x400 + (second - 0xDC00) + 0x10000), s)
    else .ok (Char.ofNat unit, s)

/-- Characters that stand for themselves or for a control character after a backslash. -/
def simpleEscape? : Char → Option Char
  | '"' => some '"'
  | '\\' => some '\\'
  | '/' => some '/'
  | 'b' => some '\x08'
  | 'f' => some '\x0c'
  | 'n' => some '\n'
  | 'r' => some '\r'
  | 't' => some '\t'
  | _ => none

/-- What follows a backslash. -/
def escape : List Char → Except JsonError (Char × List Char)
  | [] => .error .endOfString
  | c :: s =>
    match simpleEscape? c with
    | some d => .ok (d, s)
    | none => if c = 'u' then unitEscape s else .error .invalidEscape

/-- What follows a backslash in a text that is passed over: pairs of units are not looked at. -/
def skipEscape : List Char → Except JsonError (List Char)
  | [] => .error .endOfString
  | c :: s =>
    match simpleEscape? c with
    | some _ => .ok s
    | none =>
      if c = 'u' then
        match hexUnit s with
        | .error e => .error e
        | .ok (_, s) => .ok s
      else .error .invalidEscape

/-- The characters up to the closing quote, at most `fuel` of them. -/
def stringBody : Nat → List Char → Except JsonError (List Char × List Char)
  | 0, _ | _, [] => .error .endOfString
  | fuel + 1, c :: s =>
    if c = '"' then .ok ([], s)
    else if c = '\\' then
      match escape s with
      | .error e => .error e
      | .ok (d, s) =>
        match stringBody fuel s with
        | .error e => .error e
        | .ok (ds, s) => .ok (d :: ds, s)
    else if c.toNat < 32 then .error .controlCharacter
    else
      match stringBody fuel s with
      | .error e => .error e
      | .ok (ds, s) => .ok (c :: ds, s)

/-- A string after its opening quote. -/
def stringRest (s : List Char) : Except JsonError (String × List Char) :=
  (stringBody s.length s).map fun (cs, s) => (String.ofList cs, s)

/-- Passes over the characters up to the closing quote, at most `fuel` of them. -/
def skipStringBody : Nat → List Char → Except JsonError (List Char)
  | 0, _ | _, [] => .error .endOfString
  | fuel + 1, c :: s =>
    if c = '"' then .ok s
    else if c = '\\' then
      match skipEscape s with
      | .error e => .error e
      | .ok s => skipStringBody fuel s
    else if c.toNat < 32 then .error .controlCharacter
    else skipStringBody fuel s

def skipString (s : List Char) : Except JsonError (List Char) := skipStringBody s.length s

end Json

end ScreenCapture
