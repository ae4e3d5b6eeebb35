import ScreenCapture.Text.Numeral
import ScreenCapture.Text.Quoted

namespace ScreenCapture

/-- A JSON value without parts. -/
inductive JsonScalar
  | null
  | bool (value : Bool)
  | integer (value : Int)
  | string (value : String)
  deriving DecidableEq

namespace Json

/-- A character between quotes: only quotes, backslashes and control characters are escaped. -/
def escaped (c : Char) : List Char :=
  if c = '"' then ['\\', '"']
  else if c = '\\' then ['\\', '\\']
  else if c = '\x08' then ['\\', 'b']
  else if c = '\x0c' then ['\\', 'f']
  else if c = '\n' then ['\\', 'n']
  else if c = '\r' then ['\\', 'r']
  else if c = '\t' then ['\\', 't']
  else if c.toNat < 16 then ['\\', 'u', '0', '0', '0'] ++ Text.hex c.toNat
  else if c.toNat < 32 then ['\\', 'u', '0', '0'] ++ Text.hex c.toNat
  else [c]

def string (s : String) : List Char := '"' :: s.toList.flatMap escaped ++ ['"']

end Json

namespace JsonScalar

def chars : JsonScalar → List Char
  | null => ['n', 'u', 'l', 'l']
  | bool true => ['t', 'r', 'u', 'e']
  | bool false => ['f', 'a', 'l', 's', 'e']
  | integer i => Text.signedDecimal i
  | string s => Json.string s

def text (v : JsonScalar) : String := String.ofList v.chars

end JsonScalar

namespace Json

/-- A key with its value. -/
def memberChars (m : String × JsonScalar) : List Char := string m.1 ++ ':' :: m.2.chars

/-- Members with commas between them. -/
def memberList : List (String × JsonScalar) → List Char
  | [] => []
  | [m] => memberChars m
  | m :: ms => memberChars m ++ ',' :: memberList ms

/-- An object of scalars, without any blanks. -/
def objectChars (ms : List (String × JsonScalar)) : List Char :=
  '\x7b' :: memberList ms ++ ['\x7d']

def objectText (ms : List (String × JsonScalar)) : String := String.ofList (objectChars ms)

end Json

end ScreenCapture
