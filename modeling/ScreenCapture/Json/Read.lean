import ScreenCapture.Json.Skip

namespace ScreenCapture.Json

/-- What is found where something else is wanted. Words, numbers and strings are read first, and
their own faults win. -/
def found (s : List Char) : Except JsonError JsonKind :=
  match s with
  | 'n' :: s => (word ['u', 'l', 'l'] s).map fun _ => .null
  | 't' :: s => (word ['r', 'u', 'e'] s).map fun _ => .bool true
  | 'f' :: s => (word ['a', 'l', 's', 'e'] s).map fun _ => .bool false
  | '"' :: s => (stringRest s).map fun (text, _) => .string text
  | '[' :: _ => .ok .list
  | '\x7b' :: _ => .ok .object
  | s =>
    match number? s with
    | some r => r.map fun (n, _) => n.kind
    | none => .error .expectedValue

/-- Refuses the value at the front of a text. -/
def unexpected (expected : String) (s : List Char) : JsonError :=
  match found s with
  | .ok kind => .invalidType kind expected
  | .error e => e

/-- Reads a value after the blanks before it, if there is anything. -/
def reading {α : Type} (read : JsonReader α) : JsonReader α := fun s =>
  match skipSpace s with
  | [] => .error .endOfValue
  | s => read s

def readNumber {α : Type} (expected : String) (take : JsonNumber → Except JsonError α) :
    JsonReader α :=
  reading fun s =>
    match number? s with
    | none => .error (unexpected expected s)
    | some (.error e) => .error e
    | some (.ok (n, s)) => (take n).map fun a => (a, s)

/-- An integer from `low` to `high`. -/
def readInteger (expected : String) (low high : Int) : JsonReader Int :=
  readNumber expected fun n =>
    let inRange (i : Int) : Except JsonError Int :=
      if low ≤ i ∧ i ≤ high then .ok i else .error (.invalidValue (.integer i) expected)
    match n with
    | .natural n => inRange n
    | .negative i => inRange i
    | .real x => .error (.invalidType (.real x) expected)

def readUInt8 : JsonReader UInt8 := fun s =>
  (readInteger "u8" 0 255 s).map fun (i, s) => (UInt8.ofNat i.toNat, s)

def readUInt32 : JsonReader UInt32 := fun s =>
  (readInteger "u32" 0 4294967295 s).map fun (i, s) => (UInt32.ofNat i.toNat, s)

def readUInt64 : JsonReader UInt64 := fun s =>
  (readInteger "u64" 0 18446744073709551615 s).map fun (i, s) => (UInt64.ofNat i.toNat, s)

def readInt32 : JsonReader Int32 := fun s =>
  (readInteger "i32" (-2147483648) 2147483647 s).map fun (i, s) => (Int32.ofInt i, s)

/-- A number, rounded to single precision. -/
def readFloat32 : JsonReader Float32 :=
  readNumber "f32" fun n =>
    match n with
    | .natural n => .ok (UInt64.ofNat n).toFloat32
    | .negative i => .ok (-(UInt64.ofNat i.natAbs).toFloat32)
    | .real x => .ok x.toFloat32

def readBool : JsonReader Bool :=
  reading fun s =>
    match s with
    | 't' :: s => (word ['r', 'u', 'e'] s).map fun s => (true, s)
    | 'f' :: s => (word ['a', 'l', 's', 'e'] s).map fun s => (false, s)
    | s => .error (unexpected "a boolean" s)

def readString : JsonReader String :=
  reading fun s =>
    match s with
    | '"' :: s => stringRest s
    | s => .error (unexpected "a string" s)

/-- A value or null. -/
def readOption {α : Type} (read : JsonReader α) : JsonReader (Option α) := fun s =>
  match skipSpace s with
  | 'n' :: s => (word ['u', 'l', 'l'] s).map fun s => (none, s)
  | s => (read s).map fun (a, s) => (some a, s)

/-- A value that has to obey further rules. -/
def readChecked {α β : Type} (read : JsonReader α) (check : α → Except String β) : JsonReader β :=
  fun s =>
    match read s with
    | .error e => .error e
    | .ok (a, s) =>
      match check a with
      | .error message => .error (.rejected message)
      | .ok b => .ok (b, s)

/-- The colon after a key. -/
def readColon (s : List Char) : Except JsonError (List Char) :=
  match skipSpace s with
  | [] => .error .endOfObject
  | ':' :: s => .ok s
  | _ => .error .expectedColon

/-- One of a list of names. -/
def readVariant {α : Type} (known : List String) (ofName? : String → Option α) (name : String) :
    Except JsonError α :=
  match ofName? name with
  | some a => .ok a
  | none => .error (.unknownVariant name known)

/-- A name, either as a string or as the only key of an object, whose value is null. -/
def readName {α : Type} (known : List String) (ofName? : String → Option α) : JsonReader α :=
  reading fun s =>
    match s with
    | '"' :: s =>
      match stringRest s with
      | .error e => .error e
      | .ok (name, s) => (readVariant known ofName? name).map fun a => (a, s)
    | '\x7b' :: s =>
      match skipSpace s with
      | [] => .error .endOfObject
      | '"' :: s =>
        match stringRest s with
        | .error e => .error e
        | .ok (name, s) =>
          match readVariant known ofName? name with
          | .error e => .error e
          | .ok a =>
            match readColon s with
            | .error e => .error e
            | .ok s =>
              match skipSpace s with
              | [] => .error .endOfValue
              | 'n' :: s =>
                match word ['u', 'l', 'l'] s with
                | .error e => .error e
                | .ok s =>
                  match skipSpace s with
                  | [] => .error .endOfObject
                  | '\x7d' :: s => .ok (a, s)
                  | _ => .error .expectedValue
              | s => .error (unexpected "unit" s)
      | '\x7d' :: _ => .error .expectedValue
      | _ => .error .keyNotString
    | _ => .error .expectedValue

/-- Reads a whole text, with nothing but blanks after the value. -/
def readDocument {α : Type} (read : JsonReader α) (text : String) : Except JsonError α :=
  match read text.toList with
  | .error e => .error e
  | .ok (a, s) => if (skipSpace s).isEmpty then .ok a else .error .trailingCharacters

end ScreenCapture.Json
