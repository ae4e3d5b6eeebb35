import ScreenCapture.Proofs.Members
import ScreenCapture.Proofs.Sizing
import ScreenCapture.Proofs.Spelling

namespace ScreenCapture

theorem Mirroring.proper_iff {p : Mirroring} : p.Proper ↔
    (p.realWidth ≠ 0 ∧ p.realHeight ≠ 0) ∧ p.virtualWidth ≠ 0 ∧ p.virtualHeight ≠ 0 := by
  constructor
  · intro h
    obtain ⟨hvw, hvh, hrw, hrh⟩ := OutputParams.sides_of_hasZeroSide h
    exact ⟨⟨hrw, hrh⟩, hvw, hvh⟩
  · rintro ⟨⟨hrw, hrh⟩, hvw, hvh⟩
    simp [Proper, params, OutputParams.hasZeroSide, hrw, hrh, hvw, hvh]

namespace CaptureConfig

open Json

variable {c : CaptureConfig} {m : String × JsonScalar} {ms ns : List (String × JsonScalar)}
  {key : String} {seen : List String}

def Draft.keys : List String := fields.map (·.name)

/-- Members that give the same settings as those that are written: in another order, without some
that give what is standard anyway, and with others that give nothing. -/
inductive Restates (c : CaptureConfig) : List (String × JsonScalar) → Prop
  | written : Restates c c.toJson
  | permuted {ms ns : List (String × JsonScalar)} : Restates c ms → ms.Perm ns → Restates c ns
  | leftOut {m : String × JsonScalar} {ms : List (String × JsonScalar)} :
      Restates c (m :: ms) → m ∈ standard.toJson → Restates c ms
  | inserted {m : String × JsonScalar} {ms : List (String × JsonScalar)} :
      Restates c ms → m.1 ∉ Draft.keys → Restates c (m :: ms)

/-- Members that say nothing wrong, nothing twice, and all that is not standard. -/
structure Faithful (c : CaptureConfig) (ms : List (String × JsonScalar)) : Prop where
  right : ∀ m ∈ ms, m.1 ∈ Draft.keys → m ∈ c.toJson
  once : ms.Pairwise fun m n => m.1 = n.1 → m.1 ∉ Draft.keys
  whole : ∀ m ∈ c.toJson, m ∈ ms ∨ m ∈ standard.toJson

namespace Faithful

theorem written (c : CaptureConfig) : c.Faithful c.toJson where
  right _ hm _ := hm
  once := by
    have hnodup : (c.toJson.map (·.1)).Nodup := by simp [toJson]
    exact (List.pairwise_map.mp hnodup).imp fun hne he => absurd he hne
  whole _ hm := .inl hm

theorem permuted (h : c.Faithful ms) (hp : ms.Perm ns) : c.Faithful ns where
  right m hm := h.right m (hp.mem_iff.mpr hm)
  once := by
    refine (hp.pairwise_iff ?_).mp h.once
    intro m n hmn he
    rw [he]
    exact hmn he.symm
  whole m hm := (h.whole m hm).imp_left hp.mem_iff.mp

theorem leftOut (h : c.Faithful (m :: ms)) (hm : m ∈ standard.toJson) : c.Faithful ms where
  right n hn := h.right n (List.mem_cons_of_mem m hn)
  once := (List.pairwise_cons.mp h.once).2
  whole n hn := by
    rcases h.whole n hn with hn | hn
    · rcases List.mem_cons.mp hn with rfl | hn
      · exact .inr hm
      · exact .inl hn
    · exact .inr hn

theorem inserted (h : c.Faithful ms) (hm : m.1 ∉ Draft.keys) : c.Faithful (m :: ms) where
  right n hn hkey := by
    rcases List.mem_cons.mp hn with rfl | hn
    · exact absurd hkey hm
    · exact h.right n hn hkey
  once := List.pairwise_cons.mpr ⟨fun _ _ _ => hm, h.once⟩
  whole n hn := (h.whole n hn).imp_left (List.mem_cons_of_mem m)

end Faithful

theorem Restates.faithful (h : c.Restates ms) : c.Faithful ms := by
  induction h with
  | written => exact .written c
  | permuted _ hp ih => exact ih.permuted hp
  | leftOut _ hm ih => exact ih.leftOut hm
  | inserted _ hm ih => exact ih.inserted hm

/-- What is known of the settings from members with the given keys. -/
def given (c : CaptureConfig) (seen : List String) : Draft where
  displayId := if "display_id" ∈ seen then some c.displayId else none
  projection := if "projection" ∈ seen then some c.projection else none
  frameLimit := if "frame_limit" ∈ seen then some c.frameLimit else none
  waitTimeoutMs := if "wait_timeout_ms" ∈ seen then some c.waitTimeoutMs else none
  simulatedFps := if "simulated_fps" ∈ seen then some c.simulatedFps else none

theorem mem_keys_iff : key ∈ Draft.keys ↔ key = "display_id" ∨ key = "projection" ∨
    key = "frame_limit" ∨ key = "wait_timeout_ms" ∨ key = "simulated_fps" := by
  simp [Draft.keys, Draft.fields, Field.of]

theorem given_of_unknown (h : key ∉ Draft.keys) : c.given (key :: seen) = c.given seen := by
  simp only [mem_keys_iff, not_or] at h
  simp [given, Ne.symm h.1, Ne.symm h.2.1, Ne.symm h.2.2.1, Ne.symm h.2.2.2.1, Ne.symm h.2.2.2.2]

theorem reads_projection {p : Mirroring} (h : p.Proper) :
    Reads readProjection (.string p.text) p := by
  have hparse : Mirroring.parse p.text = .ok p := by
    rw [Mirroring.parse_text_iff, Mirroring.admitted_iff]
    exact Mirroring.proper_iff.mp h
  exact (reads_string p.text).checked (by rw [hparse])

theorem reads_asked (hc : c.Proper) :
    Reads (readOption readProjection)
      (match c.projection with | some p => .string p.text | none => .null) c.projection := by
  cases hp : c.projection with
  | none => exact reads_null _
  | some p => exact (reads_projection (hc p hp)).some nofun

theorem reads_bound (bound : Option UInt64) :
    Reads (readOption readUInt64)
      (match bound with | some ms => .integer ms.toNat | none => .null) bound := by
  cases bound with
  | none => exact reads_null _
  | some ms => exact (reads_uint64 ms).some nofun

theorem takes_written (hc : c.Proper) (hm : m ∈ c.toJson) (hk : m.1 ∉ seen) :
    jsonFormat.Takes (c.given seen) m (c.given (m.1 :: seen)) := by
  simp only [toJson, List.mem_cons, List.not_mem_nil, or_false] at hm
  rcases hm with rfl | rfl | rfl | rfl | rfl
  · exact RecordFormat.takes_field rfl (if_neg hk) (reads_int32 _) (by simp [given])
  · exact RecordFormat.takes_field rfl (if_neg hk) (reads_asked hc) (by simp [given])
  · exact RecordFormat.takes_field rfl (if_neg hk) (reads_uint64 _) (by simp [given])
  · exact RecordFormat.takes_field rfl (if_neg hk) (reads_bound _) (by simp [given])
  · exact RecordFormat.takes_field rfl (if_neg hk) (reads_uint32 _) (by simp [given])

/-- A member is taken for what it says, if nothing said that before. -/
theorem takes_given (hc : c.Proper)
    (hm : m.1 ∈ Draft.keys → m ∈ c.toJson ∧ m.1 ∉ seen) :
    jsonFormat.Takes (c.given seen) m (c.given (m.1 :: seen)) := by
  by_cases hkey : m.1 ∈ Draft.keys
  · obtain ⟨hm, hk⟩ := hm hkey
    exact takes_written hc hm hk
  · rw [given_of_unknown hkey]
    refine RecordFormat.takes_unknown (List.find?_eq_none.mpr fun field hf he => hkey ?_)
    rw [← of_decide_eq_true he]
    exact List.mem_map_of_mem hf

theorem takesAll_given (hc : c.Proper)
    (hright : ∀ m ∈ ms, m.1 ∈ Draft.keys → m ∈ c.toJson ∧ m.1 ∉ seen)
    (honce : ms.Pairwise fun m n => m.1 = n.1 → m.1 ∉ Draft.keys) :
    jsonFormat.TakesAll (c.given seen) ms (c.given ((ms.map (·.1)).reverse ++ seen)) := by
  induction ms generalizing seen with
  | nil => exact .nil _
  | cons m ms ih =>
    obtain ⟨hfirst, honce⟩ := List.pairwise_cons.mp honce
    rw [List.map_cons, List.reverse_cons, List.append_assoc, List.singleton_append]
    refine .cons (takes_given hc (hright m List.mem_cons_self)) (ih (fun n hn hkey => ?_) honce)
    obtain ⟨hwritten, hunseen⟩ := hright n (List.mem_cons_of_mem m hn) hkey
    refine ⟨hwritten, List.not_mem_cons_of_ne_of_not_mem (fun he => ?_) hunseen⟩
    exact hfirst n hn he.symm (he ▸ hkey)

theorem getD_given {α : Type} {a b : α} (h : key ∈ seen ∨ a = b) :
    (if key ∈ seen then some a else none).getD b = a := by
  split
  next => rfl
  next hseen => exact (h.resolve_left hseen).symm

/-- Nothing is lost when all that is not standard is given. -/
theorem finish_given (h : ∀ m ∈ c.toJson, m.1 ∈ seen ∨ m ∈ standard.toJson) :
    (c.given seen).finish = c := by
  simp only [toJson, List.forall_mem_cons] at h
  obtain ⟨hdisplay, hprojection, hlimit, hbound, hfps, -⟩ := h
  have hdisplay : "display_id" ∈ seen ∨ c.displayId = standard.displayId :=
    hdisplay.imp_right fun hm => by simpa [standard, ← Int32.toInt_inj] using hm
  have hprojection : "projection" ∈ seen ∨ c.projection = standard.projection :=
    hprojection.imp_right fun hm => by
      cases hp : c.projection with
      | none => rfl
      | some p => simp [standard, hp] at hm
  have hlimit : "frame_limit" ∈ seen ∨ c.frameLimit = standard.frameLimit :=
    hlimit.imp_right fun hm => by
      have hn : (c.frameLimit.toNat : Int) = 100 := by simpa [standard] using hm
      exact UInt64.toNat_inj.mp (Int.ofNat_inj.mp hn)
  have hbound : "wait_timeout_ms" ∈ seen ∨ c.waitTimeoutMs = standard.waitTimeoutMs :=
    hbound.imp_right fun hm => by
      cases hb : c.waitTimeoutMs with
      | none => rfl
      | some ms => simp [standard, hb] at hm
  have hfps : "simulated_fps" ∈ seen ∨ c.simulatedFps = standard.simulatedFps :=
    hfps.imp_right fun hm => by
      have hn : (c.simulatedFps.toNat : Int) = 60 := by simpa [standard] using hm
      exact UInt32.toNat_inj.mp (Int.ofNat_inj.mp hn)
  simp only [Draft.finish, given, getD_given hdisplay, getD_given hprojection, getD_given hlimit,
    getD_given hbound, getD_given hfps]

theorem ofJson_of_faithful (hc : c.Proper) (h : c.Faithful ms) {s : String}
    (hs : ObjectText ms s) : ofJson s = .ok c := by
  have hall : jsonFormat.TakesAll jsonFormat.start ms (c.given ((ms.map (·.1)).reverse ++ [])) :=
    takesAll_given hc (fun m hm hkey => ⟨h.right m hm hkey, List.not_mem_nil⟩) h.once
  have hfinish : (c.given ((ms.map (·.1)).reverse ++ [])).finish = c := by
    refine finish_given fun m hm => (h.whole m hm).imp_left fun hm => ?_
    rw [List.append_nil, List.mem_reverse]
    exact List.mem_map_of_mem hm
  rw [ofJson, RecordFormat.readDocument_objectText hs hall (congrArg Except.ok hfinish)]

/-- Settings are read back from what is written of them, and from whatever says the same in other
words. This applies to all settings that are read from any text. -/
theorem restated_read :
    (∀ c : CaptureConfig,
      (∀ p, c.projection = some p →
        (p.realWidth ≠ 0 ∧ p.realHeight ≠ 0) ∧ p.virtualWidth ≠ 0 ∧ p.virtualHeight ≠ 0) →
      ofJson (objectText c.toJson) = .ok c ∧
        ∀ ms, c.Restates ms →
          ofJson (objectText ms) = .ok c ∧ ∀ s, ObjectText ms s → ofJson s = .ok c) ∧
    ∀ s c, ofJson s = .ok c →
      (∀ p, c.projection = some p →
        (p.realWidth ≠ 0 ∧ p.realHeight ≠ 0) ∧ p.virtualWidth ≠ 0 ∧ p.virtualHeight ≠ 0) ∧
      ofJson (objectText c.toJson) = .ok c := by
  have hread {c : CaptureConfig} (hc : c.Proper) (ms : List (String × JsonScalar))
      (hms : c.Restates ms) (s : String) (hs : ObjectText ms s) : ofJson s = .ok c :=
    ofJson_of_faithful hc hms.faithful hs
  refine ⟨fun c hsides => ?_, fun s c h => ?_⟩
  · have hc : c.Proper := fun p hp => Mirroring.proper_iff.mpr (hsides p hp)
    exact ⟨hread hc _ .written _ (objectText_written _), fun ms hms =>
      ⟨hread hc ms hms _ (objectText_written ms), hread hc ms hms⟩⟩
  · have hc := proper_of_ofJson h
    exact ⟨fun p hp => Mirroring.proper_iff.mp (hc p hp),
      hread hc _ .written _ (objectText_written _)⟩

/-- What is standard is left out, the rest stands in another order among members of other kinds. -/
theorem restated_read_reordered :
    let p : Mirroring := ⟨8, 3, 1, 2, .rotation90⟩
    let c : CaptureConfig :=
      { displayId := -7, projection := some p, frameLimit := 100,
        waitTimeoutMs := some 18446744073709551615, simulatedFps := 60 }
    let ms : List (String × JsonScalar) :=
      [("note", .null), ("wait_timeout_ms", .integer 18446744073709551615),
        ("projection", .string "8x3@1x2/90"), ("note", .string "\n"), ("display_id", .integer (-7))]
    c.Restates ms ∧ ofJson (objectText c.toJson) = .ok c ∧ ofJson (objectText ms) = .ok c := by
  intro p c ms
  have hsides (q : Mirroring) (hq : c.projection = some q) :
      (q.realWidth ≠ 0 ∧ q.realHeight ≠ 0) ∧ q.virtualWidth ≠ 0 ∧ q.virtualHeight ≠ 0 := by
    obtain rfl : p = q := Option.some.inj hq
    decide
  have hturn : Text.decimal 90 = ['9', '0'] := by
    rw [Text.decimal, if_neg (by decide), decimal_of_lt (by decide)]
    rfl
  have htext : p.text = "8x3@1x2/90" := by
    show String.ofList (Text.decimal 8 ++ 'x' :: Text.decimal 3 ++ '@' :: Text.decimal 1 ++
      'x' :: Text.decimal 2 ++ '/' :: Text.decimal 90) = _
    rw [hturn, decimal_of_lt (by decide), decimal_of_lt (by decide), decimal_of_lt (by decide),
      decimal_of_lt (by decide)]
    rfl
  have hmembers : c.toJson = [("display_id", .integer (-7)), ("projection", .string "8x3@1x2/90"),
      ("frame_limit", .integer 100), ("wait_timeout_ms", .integer 18446744073709551615),
      ("simulated_fps", .integer 60)] := by
    simp [c, toJson, htext]
  have hms : c.Restates ms := by
    have hfront : c.Restates [("frame_limit", .integer 100), ("simulated_fps", .integer 60),
        ("wait_timeout_ms", .integer 18446744073709551615), ("projection", .string "8x3@1x2/90"),
        ("display_id", .integer (-7))] :=
      Restates.written.permuted (by rw [hmembers]; decide)
    have hshort := (hfront.leftOut (by decide)).leftOut (by decide)
    have hlong := (hshort.inserted (m := ("note", .string "\n")) (by decide)).inserted
      (m := ("note", .null)) (by decide)
    exact hlong.permuted (by decide)
  obtain ⟨hwritten, hrestated⟩ := restated_read.1 c hsides
  exact ⟨hms, hwritten, (hrestated ms hms).1⟩

end CaptureConfig

end ScreenCapture
