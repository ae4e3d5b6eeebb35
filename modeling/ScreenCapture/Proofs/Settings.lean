import ScreenCapture.Capture.VirtualOutput
import ScreenCapture.CommandLine.Arguments

namespace ScreenCapture

namespace Mirroring

/-- Geometry of the output that shows the display. -/
def params (p : Mirroring) : OutputParams :=
  { desiredWidth := p.virtualWidth, desiredHeight := p.virtualHeight, orientation := p.orientation,
    realWidth := p.realWidth, realHeight := p.realHeight }

def Proper (p : Mirroring) : Prop := p.params.hasZeroSide = false

theorem sides_of_readSize? {s : List Char} {width height : UInt32}
    (h : readSize? s = some (width, height)) : width ≠ 0 ∧ height ≠ 0 := by
  obtain ⟨⟨_, _⟩, _, h⟩ := Option.bind_eq_some_iff.mp h
  obtain ⟨w, _, h⟩ := Option.bind_eq_some_iff.mp h
  obtain ⟨v, _, h⟩ := Option.bind_eq_some_iff.mp h
  obtain ⟨hsides, he⟩ := Option.ite_none_left_eq_some.mp h
  cases he
  exact not_or.mp hsides

theorem proper_of_parse {text : String} {p : Mirroring} (h : parse text = .ok p) : p.Proper := by
  unfold parse at h
  split at h
  next q hread =>
    cases h
    obtain ⟨⟨_, _⟩, _, hread⟩ := Option.bind_eq_some_iff.mp hread
    obtain ⟨⟨_, _⟩, _, hread⟩ := Option.bind_eq_some_iff.mp hread
    obtain ⟨⟨rw, rh⟩, hreal, hread⟩ := Option.bind_eq_some_iff.mp hread
    obtain ⟨⟨vw, vh⟩, hvirtual, hread⟩ := Option.bind_eq_some_iff.mp hread
    obtain ⟨_, _, hread⟩ := Option.bind_eq_some_iff.mp hread
    obtain ⟨_, _, he⟩ := Option.bind_eq_some_iff.mp hread
    cases he
    obtain ⟨hrw, hrh⟩ := sides_of_readSize? hreal
    obtain ⟨hvw, hvh⟩ := sides_of_readSize? hvirtual
    simp [Proper, params, OutputParams.hasZeroSide, hrw, hrh, hvw, hvh]
  next => cases h

end Mirroring

theorem exists_of_map_eq_ok {ε α β : Type} {x : Except ε α} {f : α → β} {b : β}
    (h : x.map f = .ok b) : ∃ a, x = .ok a ∧ f a = b := by
  cases x with
  | error e => cases h
  | ok a => exact ⟨a, rfl, Except.ok.inj h⟩

namespace Json

variable {P α β : Type} {I : P → Prop}

/-- Reading the field into what is known keeps an invariant. -/
def Field.Keeps (field : Field P) (I : P → Prop) : Prop :=
  ∀ p s q rest, I p → field.read p s = .ok (q, rest) → I q

theorem Field.of_keeps {name : String} {get : P → Option α} {set : P → α → P}
    {read : JsonReader α} (h : ∀ p s a rest, I p → read s = .ok (a, rest) → I (set p a)) :
    (Field.of name get set read).Keeps I := by
  intro p s q rest hp hread
  obtain ⟨⟨a, _⟩, hvalue, he⟩ := exists_of_map_eq_ok hread
  cases he
  exact h p s a rest hp hvalue

theorem exists_of_reading {read : JsonReader α} {s : List Char} {r : α × List Char}
    (h : reading read s = .ok r) : ∃ t, read t = .ok r := by
  unfold reading at h
  split at h
  next => cases h
  next => exact ⟨_, h⟩

theorem readOption_eq_some {read : JsonReader α} {s rest : List Char} {a : α}
    (h : readOption read s = .ok (some a, rest)) : ∃ t, read t = .ok (a, rest) := by
  unfold readOption at h
  split at h
  next =>
    obtain ⟨_, _, he⟩ := exists_of_map_eq_ok h
    cases he
  next =>
    obtain ⟨⟨b, _⟩, hread, he⟩ := exists_of_map_eq_ok h
    cases he
    exact ⟨_, hread⟩

theorem readChecked_eq_ok {read : JsonReader α} {check : α → Except String β} {s rest : List Char}
    {b : β} (h : readChecked read check s = .ok (b, rest)) :
    ∃ a, read s = .ok (a, rest) ∧ check a = .ok b := by
  unfold readChecked at h
  split at h
  next => cases h
  next a _ hread =>
    split at h
    next => cases h
    next hcheck =>
      cases h
      exact ⟨a, hread, hcheck⟩

theorem exists_of_readDocument {read : JsonReader α} {text : String} {a : α}
    (h : readDocument read text = .ok a) : ∃ rest, read text.toList = .ok (a, rest) := by
  unfold readDocument at h
  split at h
  next => cases h
  next hread =>
    split at h
    next =>
      cases h
      exact ⟨_, hread⟩
    next => cases h

namespace RecordFormat

variable {f : RecordFormat P α}

theorem member_keeps (hf : ∀ field ∈ f.fields, field.Keeps I) {p q : P} {key : String}
    {s rest : List Char} (hp : I p) (h : f.member p key s = .ok (q, rest)) : I q := by
  unfold member at h
  split at h
  next field hfound =>
    split at h
    next => cases h
    next =>
      split at h
      next => cases h
      next => exact hf field (List.mem_of_find?_eq_some hfound) _ _ _ _ hp h
  next =>
    split at h
    next => cases h
    next =>
      obtain ⟨_, _, he⟩ := exists_of_map_eq_ok h
      cases he
      exact hp

theorem members_keeps (hf : ∀ field ∈ f.fields, field.Keeps I) (fuel : Nat) {first : Bool}
    {p q : P} {s rest : List Char} (hp : I p) (h : f.members fuel first p s = .ok (q, rest)) :
    I q := by
  induction fuel generalizing first p s with
  | zero => cases h
  | succ fuel ih =>
    unfold members at h
    split at h
    next => cases h
    next =>
      cases h
      exact hp
    next =>
      split at h
      next => cases h
      next =>
        split at h
        next => cases h
        next hmember => exact ih (member_keeps hf hp hmember) h

theorem elements_keeps {fields : List (Field P)} (hf : ∀ field ∈ fields, field.Keeps I)
    {index : Nat} {p q : P} {s rest : List Char} (hp : I p)
    (h : f.elements index fields p s = .ok (q, rest)) : I q := by
  induction fields generalizing index p s with
  | nil =>
    cases h
    exact hp
  | cons field fields ih =>
    unfold elements at h
    split at h
    next => cases h
    next =>
      split at h
      next =>
        cases h
        exact hp
      next => cases h
    next =>
      split at h
      next => cases h
      next hread =>
        exact ih (fun g hg => hf g (List.mem_cons_of_mem _ hg))
          (hf field List.mem_cons_self _ _ _ _ hp hread) h

/-- A record is made of what its fields leave. -/
theorem read_keeps (hstart : I f.start) (hf : ∀ field ∈ f.fields, field.Keeps I) {a : α}
    {s rest : List Char} (h : f.read s = .ok (a, rest)) : ∃ p, I p ∧ f.finish p = .ok a := by
  have hfinish {p : P} {t : List Char} (hp : I p) (hdone : f.finished p t = .ok (a, rest)) :
      ∃ p, I p ∧ f.finish p = .ok a := by
    obtain ⟨_, hb, he⟩ := exists_of_map_eq_ok hdone
    cases he
    exact ⟨p, hp, hb⟩
  obtain ⟨t, h⟩ := exists_of_reading h
  split at h
  next =>
    split at h
    next => cases h
    next helements =>
      split at h
      next => cases h
      next => exact hfinish (elements_keeps hf hstart helements) h
  next =>
    split at h
    next => cases h
    next hmembers => exact hfinish (members_keeps hf _ hstart hmembers) h
  next => cases h

end RecordFormat

end Json

namespace CaptureConfig

/-- A projection that is set has no side of zero. -/
def Proper (c : CaptureConfig) : Prop := ∀ p, c.projection = some p → p.Proper

def Draft.Proper (d : Draft) : Prop := ∀ p, d.projection = some (some p) → p.Proper

theorem Draft.fields_proper : ∀ field ∈ Draft.fields, field.Keeps Draft.Proper := by
  intro field hfield
  simp only [fields, List.mem_cons, List.not_mem_nil, or_false] at hfield
  rcases hfield with rfl | rfl | rfl | rfl | rfl
  · exact Json.Field.of_keeps fun _ _ _ _ hd _ => hd
  · refine Json.Field.of_keeps fun d s v rest hd hread p hp => ?_
    obtain rfl : v = some p := Option.some.inj hp
    obtain ⟨t, ht⟩ := Json.readOption_eq_some hread
    obtain ⟨text, _, hcheck⟩ := Json.readChecked_eq_ok ht
    split at hcheck
    next hparse =>
      cases hcheck
      exact Mirroring.proper_of_parse hparse
    next => cases hcheck
  · exact Json.Field.of_keeps fun _ _ _ _ hd _ => hd
  · exact Json.Field.of_keeps fun _ _ _ _ hd _ => hd
  · exact Json.Field.of_keeps fun _ _ _ _ hd _ => hd

theorem standard_proper : standard.Proper := nofun

theorem proper_of_ofJson {text : String} {c : CaptureConfig} (h : ofJson text = .ok c) :
    c.Proper := by
  unfold ofJson at h
  split at h
  next hdocument =>
    cases h
    obtain ⟨rest, hread⟩ := Json.exists_of_readDocument hdocument
    have hstart : Draft.Proper jsonFormat.start := nofun
    obtain ⟨d, hd, hfinish⟩ := Json.RecordFormat.read_keeps hstart Draft.fields_proper hread
    cases hfinish
    intro p hp
    cases hprojection : d.projection with
    | none =>
      rw [Draft.finish, hprojection] at hp
      cases hp
    | some projection =>
      rw [Draft.finish, hprojection] at hp
      obtain rfl : projection = some p := hp
      exact hd p hprojection
  next => cases h

end CaptureConfig

namespace CommandLine

def Overrides.Proper (o : Overrides) : Prop := ∀ p, o.projection = some p → p.Proper

variable {o : Overrides} {p q : Progress}

theorem readValue_proper {o' : Overrides} {flag : Flag} {s : String} (h : o.Proper)
    (hread : readValue o flag s = .ok o') : o'.Proper := by
  cases flag with
  | projection =>
    simp only [readValue] at hread
    split at hread
    next hparse =>
      cases hread
      intro p hp
      cases hp
      exact Mirroring.proper_of_parse hparse
    next => cases hread
  | displayId | frames | fps | waitTimeoutMs =>
    obtain ⟨_, _, rfl⟩ := exists_of_map_eq_ok hread
    exact h

theorem store_proper {o' : Overrides} {flag : Flag} {s : String} (h : o.Proper)
    (hstore : store o flag s = .ok o') : o'.Proper := by
  unfold store at hstore
  split at hstore
  next => cases hstore
  next =>
    split at hstore
    next hread =>
      cases hstore
      exact readValue_proper h hread
    next => cases hstore

namespace Progress

theorem settle_proper (h : p.overrides.Proper) (hsettle : p.settle = .ok o) : o.Proper := by
  unfold settle at hsettle
  split at hsettle
  next =>
    cases hsettle
    exact h
  next => cases hsettle
  next => exact store_proper h hsettle
  next =>
    split at hsettle
    next => cases hsettle
    next =>
      cases hsettle
      exact h

theorem positional_proper {s : String} (h : p.overrides.Proper) (hs : p.positional s = .ok q) :
    q.overrides.Proper := by
  unfold positional at hs
  split at hs
  next => cases hs
  next =>
    obtain ⟨o, hsettle, rfl⟩ := exists_of_map_eq_ok hs
    exact settle_proper h hsettle

theorem long_proper {flag : Flag} {value : Option String} (h : p.overrides.Proper)
    (hs : p.long flag value = .ok q) : q.overrides.Proper := by
  unfold long at hs
  split at hs
  next => cases hs
  next hsettle =>
    split at hs
    next =>
      cases hs
      exact settle_proper h hsettle
    next =>
      obtain ⟨o, hstore, rfl⟩ := exists_of_map_eq_ok hs
      exact store_proper (settle_proper h hsettle) hstore

theorem plain_proper {s : String} (h : p.overrides.Proper) (hs : p.plain s = .ok q) :
    q.overrides.Proper := by
  unfold plain at hs
  split at hs
  next =>
    cases hs
    exact h
  next => exact positional_proper h hs

end Progress

theorem proper_of_settle (h : p.overrides.Proper)
    (hread : p.settle.map Request.capture = .ok (.capture o)) : o.Proper := by
  obtain ⟨o', hsettle, he⟩ := exists_of_map_eq_ok hread
  cases he
  exact p.settle_proper h hsettle

theorem notice_ne_capture {n : Notice} : notice p n ≠ .ok (.capture o) := by
  intro h
  obtain ⟨_, _, he⟩ := exists_of_map_eq_ok h
  cases he

theorem readPositionals_proper {arguments : List String} (h : p.overrides.Proper)
    (hread : readPositionals p arguments = .ok (.capture o)) : o.Proper := by
  induction arguments generalizing p with
  | nil => exact proper_of_settle h hread
  | cons s rest ih =>
    unfold readPositionals at hread
    split at hread
    next => cases hread
    next hs => exact ih (Progress.positional_proper h hs) hread

theorem readArguments_proper {arguments : List String} (h : p.overrides.Proper)
    (hread : readArguments p arguments = .ok (.capture o)) : o.Proper := by
  induction arguments generalizing p with
  | nil => exact proper_of_settle h hread
  | cons s rest ih =>
    unfold readArguments at hread
    split at hread
    next => exact readPositionals_proper h hread
    next =>
      split at hread
      next => exact absurd hread notice_ne_capture
      next => cases hread
    next =>
      split at hread
      next => cases hread
      next hs => exact ih (Progress.plain_proper h hs) hread
    next =>
      split at hread
      next =>
        split at hread
        next => cases hread
        next hs => exact ih (Progress.long_proper h hs) hread
      next => exact absurd hread notice_ne_capture
      next => cases hread
      next => cases hread

theorem proper_of_parse {arguments : List String} (h : parse arguments = .ok (.capture o)) :
    o.Proper :=
  readArguments_proper (p := .start) nofun h

end CommandLine

end ScreenCapture
