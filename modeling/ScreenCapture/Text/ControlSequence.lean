namespace ScreenCapture.Text

/-- A control sequence for terminals, as far as it is read. -/
inductive ControlSequence
  /-- The escape character alone. -/
  | escape
  /-- A short sequence, of which the last character is missing. -/
  | intermediate
  /-- A sequence after a bracket, up to a letter. -/
  | bracketed
  /-- A command to the operating system, up to a bell. -/
  | command
  /-- A device control string, before anything of its head. -/
  | device
  | deviceParameters
  | deviceIntermediate
  /-- A text for the terminal, up to the string terminator. -/
  | body
  deriving DecidableEq

namespace ControlSequence

/-- The string terminator is one byte, which may also be a part of a longer character. -/
def holdsTerminator (c : Char) : Bool := (String.utf8EncodeChar c).contains 0x9C

/-- What an escape leads to. -/
def opened (c : Char) : Option ControlSequence :=
  if c = '[' then some bracketed
  else if c = ']' then some command
  else if c = 'P' then some device
  else if c = 'X' ∨ c = '^' ∨ c = '_' then some body
  else if ' ' ≤ c ∧ c ≤ '/' then some intermediate
  else if '0' ≤ c ∧ c ≤ '~' then none
  else some escape

/-- The sequence with one more character; nothing when that is its last one. -/
def next : ControlSequence → Char → Option ControlSequence
  | escape, c => opened c
  | intermediate, c => if '0' ≤ c ∧ c ≤ '~' then none else some intermediate
  | bracketed, c => if '@' ≤ c ∧ c ≤ '~' then none else some bracketed
  | command, c => if c = '\x07' then none else some command
  | device, c =>
    if ' ' ≤ c ∧ c ≤ '/' then some deviceIntermediate
    else if '0' ≤ c ∧ c ≤ '?' then some deviceParameters
    else if '@' ≤ c ∧ c ≤ '~' then some body
    else some device
  | deviceParameters, c =>
    if ' ' ≤ c ∧ c ≤ '/' then some deviceIntermediate
    else if '<' ≤ c ∧ c ≤ '~' then some body
    else some deviceParameters
  | deviceIntermediate, c =>
    if '0' ≤ c ∧ c ≤ '~' then some body else some deviceIntermediate
  | body, c => if holdsTerminator c then none else some body

/-- Whether blanks inside the sequence are still shown. -/
def showsBlanks : ControlSequence → Bool
  | escape | intermediate | bracketed => true
  | _ => false

end ControlSequence

def isControl (c : Char) : Bool := c < ' ' || c = '\x7f'

/-- The control characters that set text apart. -/
def isSpacing (c : Char) : Bool := c = '\t' || c = '\n' || c = '\x0c' || c = '\r'

/-- Where in a text a terminal is. -/
inductive ControlState
  | plain
  | inside (sequence : ControlSequence)
  /-- A blank has broken a sequence off; the next control character goes on with it. -/
  | interrupted (sequence : ControlSequence)
  deriving DecidableEq

namespace ControlState

/-- Moves over a character, and says whether it is shown. An escape begins a new sequence, and a
cancel or a substitute ends whatever is read. -/
def next (state : ControlState) (c : Char) : ControlState × Bool :=
  if c = '\x1b' then (inside .escape, false)
  else if c = '\x18' ∨ c = '\x1a' then (plain, false)
  else
    match state with
    | plain => (plain, !isControl c || isSpacing c)
    | inside s =>
      if s.showsBlanks && isSpacing c then (interrupted s, true)
      else
        match s.next c with
        | some s => (inside s, false)
        | none => (plain, false)
    | interrupted s =>
      if isSpacing c then (interrupted s, true)
      else if isControl c then (inside s, false)
      else if c.toNat < 128 then (interrupted s, true)
      else (plain, true)

end ControlState

def visibleFrom : ControlState → List Char → List Char
  | _, [] => []
  | state, c :: s =>
    let (state, isShown) := state.next c
    if isShown then c :: visibleFrom state s else visibleFrom state s

/-- What is left of a text without control characters and the sequences that they begin. -/
def visible (s : List Char) : List Char := visibleFrom .plain s

theorem visible_eq_self {s : List Char} (h : ∀ c ∈ s, isControl c = false) : visible s = s := by
  unfold visible
  induction s with
  | nil => rfl
  | cons c s ih =>
    have hc : isControl c = false := h c List.mem_cons_self
    have hn : ControlState.plain.next c = (.plain, true) := by
      unfold ControlState.next
      have h1 : c ≠ '\x1b' := by rintro rfl; exact absurd hc (by decide)
      have h2 : c ≠ '\x18' := by rintro rfl; exact absurd hc (by decide)
      have h3 : c ≠ '\x1a' := by rintro rfl; exact absurd hc (by decide)
      simp [h1, h2, h3, hc]
    simp [visibleFrom, hn, ih fun d hd => h d (List.mem_cons_of_mem c hd)]

end ScreenCapture.Text
