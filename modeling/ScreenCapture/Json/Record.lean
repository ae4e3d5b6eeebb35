import ScreenCapture.Json.Read

namespace ScreenCapture.Json

/-- A field of a record of which some fields are known already. -/
structure Field (P : Type) where
  name : String
  isSet : P → Bool
  read : P → JsonReader P

/-- How a record is read: from an object with its fields in any order, or from a list of them. -/
structure RecordFormat (P α : Type) where
  name : String
  fields : List (Field P)
  /-- Whether fields may be left out. -/
  optional : Bool
  start : P
  finish : P → Except JsonError α

variable {P α : Type}

namespace RecordFormat

def expected (f : RecordFormat P α) : String := "struct " ++ f.name

def expectedLength (f : RecordFormat P α) : String :=
  let count := f.fields.length
  f.expected ++ s!" with {count} elements"

/-- Reads the value of a member, or passes over it when its key is not known. -/
def member (f : RecordFormat P α) (p : P) (key : String) (s : List Char) :
    Except JsonError (P × List Char) :=
  match f.fields.find? (·.name = key) with
  | some field =>
    if field.isSet p then .error (.duplicateField key)
    else
      match readColon s with
      | .error e => .error e
      | .ok s => field.read p s
  | none =>
    match readColon s with
    | .error e => .error e
    | .ok s => (skipValue s).map fun s => (p, s)

/-- Moves to the next key, behind its opening quote, or behind the end of the object. -/
def nextKey (first : Bool) (s : List Char) : Except JsonError (Bool × List Char) :=
  match skipSpace s with
  | [] => .error .endOfObject
  | '\x7d' :: s => .ok (false, s)
  | c :: s =>
    if first then if c = '"' then .ok (true, s) else .error .keyNotString
    else if c = ',' then
      match skipSpace s with
      | [] => .error .endOfValue
      | '"' :: s => .ok (true, s)
      | '\x7d' :: _ => .error .trailingComma
      | _ => .error .keyNotString
    else .error .expectedObjectEnd

/-- Reads the members of an object after its opening brace, at most `fuel` of them. -/
def members (f : RecordFormat P α) : Nat → Bool → P → List Char → Except JsonError (P × List Char)
  | 0, _, _, _ => .error .endOfObject
  | fuel + 1, first, p, s =>
    match nextKey first s with
    | .error e => .error e
    | .ok (false, s) => .ok (p, s)
    | .ok (true, s) =>
      match stringRest s with
      | .error e => .error e
      | .ok (key, s) =>
        match f.member p key s with
        | .error e => .error e
        | .ok (p, s) => f.members fuel false p s

/-- Moves to the next element of a list, or up to its end. -/
def nextElement (first : Bool) (s : List Char) : Except JsonError (Bool × List Char) :=
  match skipSpace s with
  | [] => .error .endOfList
  | ']' :: s => .ok (false, ']' :: s)
  | c :: s =>
    if first then .ok (true, c :: s)
    else if c = ',' then
      match skipSpace s with
      | [] => .error .endOfValue
      | ']' :: _ => .error .trailingComma
      | s => .ok (true, s)
    else .error .expectedListEnd

/-- The end of a list, all of whose elements are read. -/
def listEnd (s : List Char) : Except JsonError (List Char) :=
  match skipSpace s with
  | [] => .error .endOfList
  | ']' :: s => .ok s
  | ',' :: s =>
    match skipSpace s with
    | ']' :: _ => .error .trailingComma
    | _ => .error .trailingCharacters
  | _ => .error .trailingCharacters

/-- Reads the elements of a list into the given fields, one after another. A list that ends early
leaves the rest of them out, if that is allowed. -/
def elements (f : RecordFormat P α) : Nat → List (Field P) → P → List Char →
    Except JsonError (P × List Char)
  | _, [], p, s => .ok (p, s)
  | index, field :: fields, p, s =>
    match nextElement (index = 0) s with
    | .error e => .error e
    | .ok (false, s) =>
      if f.optional then .ok (p, s) else .error (.invalidLength index f.expectedLength)
    | .ok (true, s) =>
      match field.read p s with
      | .error e => .error e
      | .ok (p, s) => f.elements (index + 1) fields p s

def finished (f : RecordFormat P α) (p : P) (s : List Char) : Except JsonError (α × List Char) :=
  (f.finish p).map fun a => (a, s)

/-- Reads a record. -/
def read (f : RecordFormat P α) : JsonReader α :=
  reading fun s =>
    match s with
    | '[' :: s =>
      match f.elements 0 f.fields f.start s with
      | .error e => .error e
      | .ok (p, s) =>
        match listEnd s with
        | .error e => .error e
        | .ok s => f.finished p s
    | '\x7b' :: s =>
      match f.members (s.length + 1) true f.start s with
      | .error e => .error e
      | .ok (p, s) => f.finished p s
    | s => .error (unexpected f.expected s)

end RecordFormat

/-- The value of a field, which must not be left out. -/
def required (name : String) : Option α → Except JsonError α
  | some a => .ok a
  | none => .error (.missingField name)

/-- A field that is read by `read`, kept by `set`, and looked up by `get`. -/
def Field.of (name : String) (get : P → Option α) (set : P → α → P) (read : JsonReader α) :
    Field P where
  name
  isSet p := (get p).isSome
  read p s := (read s).map fun (a, s) => (set p a, s)

end ScreenCapture.Json
