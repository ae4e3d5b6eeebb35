import Mathlib.Data.List.TakeWhile
import ScreenCapture.Json.Record
import ScreenCapture.Proofs.Scalars

namespace ScreenCapture.Json

/-- What stands before the key of a member: a comma, unless the member is the first one. -/
inductive Separator : Bool → List Char → Prop
  | first {gap : List Char} : Gap gap → Separator true gap
  | comma {gap gap' : List Char} : Gap gap → Gap gap' → Separator false (gap ++ ',' :: gap')

/-- Ways to write members and the brace after them. -/
inductive MembersText : Bool → List (String × JsonScalar) → List Char → Prop
  | close {first : Bool} {gap : List Char} : Gap gap → MembersText first [] (gap ++ ['\x7d'])
  | member {first : Bool} {m : String × JsonScalar} {ms : List (String × JsonScalar)}
      {before key gap gap' value rest : List Char} :
      Separator first before → StringText m.1.toList key → Gap gap → Gap gap' →
      ScalarText m.2 value → MembersText false ms rest →
      MembersText first (m :: ms)
        (before ++ '"' :: (key ++ '"' :: (gap ++ ':' :: (gap' ++ (value ++ rest)))))

/-- A text is an object with the given members, in their order. -/
def ObjectText (ms : List (String × JsonScalar)) (s : String) : Prop :=
  ∃ gap body gap', s.toList = gap ++ '\x7b' :: (body ++ gap') ∧ Gap gap ∧
    MembersText true ms body ∧ Gap gap'

theorem gap_nil : Gap [] := nofun

theorem MembersText.comma {m : String × JsonScalar} {ms : List (String × JsonScalar)}
    {s : List Char} (h : MembersText true (m :: ms) s) : MembersText false (m :: ms) (',' :: s) := by
  cases h with
  | member hb hk hg hg' hv hr =>
    obtain ⟨hb⟩ := hb
    exact .member (.comma gap_nil hb) hk hg hg' hv hr

theorem membersText_memberList (ms : List (String × JsonScalar)) :
    MembersText true ms (memberList ms ++ ['\x7d']) := by
  induction ms with
  | nil => exact .close gap_nil
  | cons m ms ih =>
    have hmember {rest : List Char} (hr : MembersText false ms rest) :
        MembersText true (m :: ms) (memberChars m ++ rest) := by
      have h := MembersText.member (.first gap_nil) (stringText_escaped m.1.toList) gap_nil gap_nil
        (scalarText_chars m.2) hr
      simpa only [memberChars, string, List.nil_append, List.append_assoc, List.cons_append] using h
    cases ms with
    | nil => exact hmember (.close gap_nil)
    | cons n ms =>
      have h := hmember ih.comma
      rw [memberList, List.append_assoc, List.cons_append]
      · exact h
      · exact List.cons_ne_nil n ms

/-- What is written is a text of what it is written from. -/
theorem objectText_written (ms : List (String × JsonScalar)) : ObjectText ms (objectText ms) := by
  refine ⟨[], memberList ms ++ ['\x7d'], [], ?_, gap_nil, membersText_memberList ms, gap_nil⟩
  rw [objectText, String.toList_ofList, objectChars, List.append_nil]
  rfl

theorem stops_append {gap s : List Char} (hg : Gap gap) (hs : Stops s) : Stops (gap ++ s) := by
  cases gap with
  | nil => exact hs
  | cons b gap =>
    intro c hc
    obtain rfl := Option.some.inj hc
    have hb := hg b List.mem_cons_self
    simp only [isSpace, Bool.or_eq_true, decide_eq_true_eq] at hb
    rcases hb with ((rfl | rfl) | rfl) | rfl <;> decide

theorem stops_cons {c : Char} (s : List Char) (h : c = ',' ∨ c = '\x7d') : Stops (c :: s) := by
  intro d hd
  obtain rfl := Option.some.inj hd
  rcases h with rfl | rfl <;> decide

theorem MembersText.stops {ms : List (String × JsonScalar)} {s : List Char}
    (h : MembersText false ms s) (after : List Char) : Stops (s ++ after) := by
  cases h with
  | close hg =>
    rw [List.append_assoc]
    exact stops_append hg (stops_cons _ (.inr rfl))
  | member hb _ _ _ _ _ =>
    obtain _ | ⟨hg, _⟩ := hb
    rw [List.append_assoc, List.append_assoc]
    exact stops_append hg (stops_cons _ (.inl rfl))

theorem MembersText.length_lt {first : Bool} {ms : List (String × JsonScalar)} {s : List Char}
    (h : MembersText first ms s) : ms.length < s.length := by
  induction h with
  | close _ => simp
  | member _ _ _ _ _ _ ih =>
    simp only [List.length_cons, List.length_append]
    omega

namespace RecordFormat

variable {P α β : Type}

theorem nextKey_close {first : Bool} {gap : List Char} (hg : Gap gap) (rest : List Char) :
    nextKey first (gap ++ '\x7d' :: rest) = .ok (false, rest) := by
  rw [nextKey, skipSpace_append hg (c := '\x7d') rfl rfl]
  rfl

theorem nextKey_member {first : Bool} {before : List Char} (hb : Separator first before)
    (rest : List Char) : nextKey first (before ++ '"' :: rest) = .ok (true, rest) := by
  cases hb with
  | first hg =>
    rw [nextKey, skipSpace_append hg (c := '"') rfl rfl]
    rfl
  | @comma gap gap' hg hg' =>
    have hcomma := skipSpace_append hg (s := ',' :: (gap' ++ '"' :: rest)) rfl rfl
    have hquote := skipSpace_append hg' (s := '"' :: rest) rfl rfl
    simp [nextKey, hcomma, hquote]

theorem readColon_append {gap : List Char} (hg : Gap gap) (rest : List Char) :
    readColon (gap ++ ':' :: rest) = .ok rest := by
  rw [readColon, skipSpace_append hg (c := ':') rfl rfl]
  rfl

variable {f : RecordFormat P α} {p q : P} {m : String × JsonScalar}
  {ms : List (String × JsonScalar)}

/-- With a member, what is known of the record changes as given, in whatever way the member is
written. -/
def Takes (f : RecordFormat P α) (p : P) (m : String × JsonScalar) (q : P) : Prop :=
  ∀ gap gap' t rest, Gap gap → Gap gap' → ScalarText m.2 t → Stops rest →
    f.member p m.1 (gap ++ ':' :: (gap' ++ (t ++ rest))) = .ok (q, rest)

/-- With members, one after another. -/
inductive TakesAll (f : RecordFormat P α) : P → List (String × JsonScalar) → P → Prop
  | nil (p : P) : TakesAll f p [] p
  | cons {p q r : P} {m : String × JsonScalar} {ms : List (String × JsonScalar)} :
      f.Takes p m q → TakesAll f q ms r → TakesAll f p (m :: ms) r

theorem takes_field {name : String} {get : P → Option β} {set : P → β → P}
    {read : JsonReader β} {v : JsonScalar} {b : β}
    (hf : f.fields.find? (·.name = name) = some (.of name get set read)) (hget : get p = none)
    (hr : Reads read v b) (hset : set p b = q) : f.Takes p (name, v) q := by
  intro gap gap' t rest hg hg' ht hs
  have hfree : (Field.of name get set read).isSet p = false := congrArg Option.isSome hget
  simp only [member, hf, hfree, Bool.false_eq_true, if_false, readColon_append hg]
  rw [← hset]
  exact hr.map (set p) gap' t rest hg' ht hs

/-- A member whose key is not known leaves things as they are. -/
theorem takes_unknown (hf : f.fields.find? (·.name = m.1) = none) : f.Takes p m p := by
  intro gap gap' t rest hg hg' ht hs
  simp only [member, hf, readColon_append hg, skipValue_append hg' ht hs]
  rfl

theorem members_append {first : Bool} {s : List Char} (ht : MembersText first ms s)
    (h : f.TakesAll p ms q) (fuel : Nat) (hfuel : ms.length < fuel) (after : List Char) :
    f.members fuel first p (s ++ after) = .ok (q, after) := by
  induction ht generalizing p fuel with
  | close hg =>
    obtain ⟨fuel, rfl⟩ := Nat.exists_eq_succ_of_ne_zero (Nat.ne_zero_of_lt hfuel)
    cases h
    rw [List.append_assoc, List.singleton_append, members, nextKey_close hg]
  | @member first m ms before key gap gap' value rest hb hk hg hg' hv hr ih =>
    obtain ⟨fuel, rfl⟩ := Nat.exists_eq_succ_of_ne_zero (Nat.ne_zero_of_lt hfuel)
    obtain _ | ⟨htakes, hall⟩ := h
    have hmember := htakes gap gap' value (rest ++ after) hg hg' hv (hr.stops after)
    simp only [List.append_assoc, List.cons_append, members, nextKey_member hb,
      stringRest_append hk, hmember]
    exact ih hall fuel (Nat.lt_of_succ_lt_succ hfuel)

/-- An object is read as what its members leave. -/
theorem readDocument_objectText {s : String} {a : α} (ht : ObjectText ms s)
    (h : f.TakesAll f.start ms q) (ha : f.finish q = .ok a) : readDocument f.read s = .ok a := by
  obtain ⟨gap, body, gap', hs, hg, hbody, hg'⟩ := ht
  have hlength : ms.length < (body ++ gap').length + 1 := by
    have hlt := hbody.length_lt
    rw [List.length_append]
    omega
  have hmembers := members_append hbody h _ hlength gap'
  have hend : skipSpace gap' = [] := List.dropWhile_eq_nil_iff.mpr hg'
  have hread : f.read s.toList = .ok (a, gap') := by
    rw [hs, read, reading, skipSpace_append hg (c := '\x7b') rfl rfl]
    simp only [hmembers, finished, ha]
    rfl
  rw [readDocument, hread]
  simp only [hend, List.isEmpty_nil, if_true]

end RecordFormat

end ScreenCapture.Json
