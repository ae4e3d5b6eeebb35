import ScreenCapture.Text.Quoted
import ScreenCapture.Text.ShortestDecimal

namespace ScreenCapture

/-- What a JSON text holds in a place where something else is wanted. -/
inductive JsonKind
  | null
  | bool (value : Bool)
  | integer (value : Int)
  | real (value : Float)
  | string (value : String)
  | list
  | object

/-- Why a JSON text cannot be read. -/
inductive JsonError
  | endOfList | endOfObject | endOfString | endOfValue
  | expectedColon | expectedListEnd | expectedObjectEnd | expectedIdent | expectedValue
  | invalidEscape | invalidNumber | numberOutOfRange | loneSurrogate | endOfHexEscape
  | controlCharacter | keyNotString | trailingComma | trailingCharacters
  | missingField (name : String)
  | duplicateField (name : String)
  | invalidType (found : JsonKind) (expected : String)
  | invalidValue (found : JsonKind) (expected : String)
  | invalidLength (length : Nat) (expected : String)
  | unknownVariant (name : String) (known : List String)
  /-- Refused by the rules of what the text stands for. -/
  | rejected (message : String)

/-- Reals are written without an exponent from 0.00001 up to sixteen digits before the point. -/
def Json.realFormat : Text.RealFormat := ⟨-5, 15, true⟩

def JsonKind.text : JsonKind → String
  | null => "null"
  | bool b => if b then "boolean `true`" else "boolean `false`"
  | integer i => s!"integer `{i}`"
  | real x => "floating point `" ++ Text.realText Json.realFormat x ++ "`"
  | string s => "string " ++ Text.quoted s
  | list => "sequence"
  | object => "map"

namespace JsonError

/-- Names between backticks, separated by commas. -/
def nameList (names : List String) : String :=
  ", ".intercalate (names.map fun n => "`" ++ n ++ "`")

def message : JsonError → String
  | endOfList => "EOF while parsing a list"
  | endOfObject => "EOF while parsing an object"
  | endOfString => "EOF while parsing a string"
  | endOfValue => "EOF while parsing a value"
  | expectedColon => "expected `:`"
  | expectedListEnd => "expected `,` or `]`"
  | expectedObjectEnd => "expected `,` or `\x7d`"
  | expectedIdent => "expected ident"
  | expectedValue => "expected value"
  | invalidEscape => "invalid escape"
  | invalidNumber => "invalid number"
  | numberOutOfRange => "number out of range"
  | loneSurrogate => "lone leading surrogate in hex escape"
  | endOfHexEscape => "unexpected end of hex escape"
  | controlCharacter => "control character (\\u0000-\\u001F) found while parsing a string"
  | keyNotString => "key must be a string"
  | trailingComma => "trailing comma"
  | trailingCharacters => "trailing characters"
  | missingField name => s!"missing field `{name}`"
  | duplicateField name => s!"duplicate field `{name}`"
  | invalidType found expected => "invalid type: " ++ found.text ++ ", expected " ++ expected
  | invalidValue found expected => "invalid value: " ++ found.text ++ ", expected " ++ expected
  | invalidLength length expected => s!"invalid length {length}, expected {expected}"
  | unknownVariant name known => s!"unknown variant `{name}`, expected one of " ++ nameList known
  | rejected message => message

end JsonError

end ScreenCapture
