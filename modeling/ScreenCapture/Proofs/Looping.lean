import ScreenCapture.CommandLine.Capture
import ScreenCapture.Proofs.Delivery
import ScreenCapture.Proofs.Passing

namespace ScreenCapture

namespace Compositor.Onward

theorem beginWait (k : Controller) (operation : CaptureOperation) (c : Compositor) :
    c.Onward (k.beginWait operation c).2.2 := by
  unfold Controller.beginWait
  split
  next => exact refl c
  next =>
    split
    next => exact refl c
    next =>
      obtain ⟨_ | o⟩ := k.manager
      · exact refl c
      · exact unlockHeld c o.holder o.queue

theorem waitAs (k : Controller) (operation : CaptureOperation) (arrives : Bool) (c : Compositor) :
    c.Onward (k.waitAs operation arrives c).2.2 := by
  have hbegin := beginWait k operation c
  unfold Controller.waitAs
  generalize k.beginWait operation c = begun at hbegin ⊢
  obtain ⟨_ | _ | waiter, k, d⟩ := begun
  · exact hbegin
  · exact hbegin
  · have hawait := awaitNotice d waiter arrives
    simp only
    generalize d.awaitNotice waiter arrives = awaited at hawait ⊢
    obtain ⟨_ | _, e⟩ := awaited
    · exact hbegin.trans hawait
    · exact hbegin.trans hawait

theorem consume (k : Controller) (c : Compositor) : c.Onward (k.consume c).2.2 := by
  unfold Controller.consume
  split
  next => exact refl c
  next =>
    obtain ⟨_ | o⟩ := k.manager
    · exact refl c
    · have hlock := lockNext c o.holder o.queue
      simp only [OutputManager.lockNext, Option.map_some]
      generalize o.holder.lockNext (source o.queue) c = locked at hlock ⊢
      obtain ⟨_ | buffer, holder, d⟩ := locked
      · exact hlock
      · simp only
        split
        next => exact hlock
        next => exact hlock

end Compositor.Onward

/-- Where nothing is announced yet, a wait ends as it is served. -/
theorem Noticing.eq_arrives {arrives b : Bool} {f g : Feed} {consumed : Nat}
    (h : Noticing arrives f b g) (hf : f.Coherent consumed false) (hl : f.locked = false)
    (hq : f.queued = none) : b = arrives ∧ (b = false → g = f) := by
  have hp : f.pending = 0 := by
    have hb := hf.balanced
    simp only [Feed.Balanced, hq, Option.isSome_none, Bool.toNat_false] at hb
    omega
  cases h with
  | announced hg =>
    obtain ⟨hpos, _⟩ := Feed.takeNotice?_eq_some hg
    omega
  | rendered _ ha => exact ⟨ha.symm, fun hb => Bool.noConfusion hb⟩
  | silent hn ha hsilent =>
    subst ha
    cases (Noticing.silent hn rfl hsilent).arrives hf hl
  | vain _ ha => exact ⟨ha.symm, fun _ => rfl⟩

namespace CommandLine

/-- Frame of a turn. -/
def Turn.frame? : Turn → Option Frame
  | captured frame => some frame
  | late | lockFailed | failed _ => none

def framesOf (course : List Turn) : List Frame := course.filterMap Turn.frame?

/-- Bytes that frames hold, put together. -/
def bytesOf : List Frame → Nat
  | [] => 0
  | frame :: rest => frame.size.toNat + bytesOf rest

/-- Turns of the loop, one after another, and where they lead. -/
inductive Course (timeout : Option Nat) (arrives : Nat → Bool) :
    Nat → Controller × Compositor → List Turn → Controller × Compositor → Prop
  | stop {round s} : Course timeout arrives round s [] s
  | next {round k c done s course t} : turn timeout (arrives round) k c = (done, s) →
      Course timeout arrives (round + 1) s course t →
      Course timeout arrives round (k, c) (done :: course) t

/-- A tally is of the frames that were consumed and the waits that were in vain. -/
theorem Tally.foldl_note (t : Tally) (course : List Turn) :
    (course.foldl note t).consumed = t.consumed + (framesOf course).length ∧
      (course.foldl note t).bytes = t.bytes + bytesOf (framesOf course) ∧
      (course.foldl note t).first = t.first.or (framesOf course).head? := by
  induction course generalizing t with
  | nil => simp [framesOf, bytesOf]
  | cons done rest ih =>
    obtain ⟨hconsumed, hbytes, hfirst⟩ := ih (t.note done)
    simp only [List.foldl_cons, hconsumed, hbytes, hfirst]
    cases done with
    | late | lockFailed | failed => exact ⟨rfl, rfl, rfl⟩
    | captured frame =>
      simp only [framesOf, List.filterMap_cons, Turn.frame?, List.length_cons, bytesOf,
        List.head?_cons, note, add]
      refine ⟨by omega, by omega, ?_⟩
      cases t.first <;> simp

/-- Between two turns: the frames so far were consumed, no other is drawn yet, and no lock is going
to fail. -/
structure Rests (site : Site) (s : Controller × Compositor) (consumed : Nat) : Prop where
  feed : ∃ f, s.1.Tracks s.2 (some (site, f)) ∧ f.Coherent consumed false ∧ f.queued = none
  pending : s.1.framePending = false
  armed : s.2.armed .lock = none

namespace Rests

variable {site : Site} {k : Controller} {c : Compositor} {consumed : Nat}

/-- A wait that is not served changes nothing; one that is served ends with the next frame. -/
theorem waitAs (h : Rests site (k, c) consumed) (operation : CaptureOperation) (arrives : Bool) :
    ∃ k' d, k.waitAs operation arrives c = (.ok arrives, k', d) ∧ k'.stats = k.stats ∧
      (arrives = false → Rests site (k', d) consumed) ∧
      (arrives = true → CaptureAction.Keeps site (k', d) consumed ∧ k'.state = .frameReady ∧
        d.armed .lock = none) := by
  obtain ⟨⟨f, htracks, hf, hq⟩, hpending, harmed⟩ := h
  have honward := Compositor.Onward.waitAs k operation arrives c
  rcases htracks.beginWait operation with ⟨hs, _⟩ | ⟨hp, _⟩ | ⟨s, g, m, d, he, _, hb, hd⟩
  · rw [htracks.running] at hs
    cases hs
  · rw [hpending] at hp
    cases hp
  · obtain ⟨rfl, rfl⟩ := Prod.mk.inj (Option.some.inj he)
    obtain ⟨b, d', g, hwait, hnotice, hd'⟩ := hd.runs.awaitNotice arrives
    obtain ⟨rfl, hkept⟩ := hnotice.eq_arrives hf.unlock rfl hq
    have htracks' : Controller.Tracks { k with manager := m, state := .awaitingFrame } d'
        (some (site, g)) := ⟨hd', hd.running, hd.pending, hd.free⟩
    have hg := hnotice.keeps hf.unlock
    simp only [Controller.waitAs, hb, hwait] at honward ⊢
    cases b with
    | false =>
      refine ⟨_, d', rfl, rfl, fun _ => ⟨⟨g, htracks', hg, ?_⟩, hpending, ?_⟩, by simp⟩
      · rw [hkept rfl]
        exact hq
      · exact honward.armed .lock harmed
    | true =>
      exact ⟨_, d', rfl, rfl, by simp, fun _ =>
        ⟨⟨g, htracks'.noteFrame hnotice.locked, hg⟩, rfl, honward.armed .lock harmed⟩⟩

end Rests

/-- The frame that is due is consumed, and the queue is empty again. -/
theorem rests_of_consume {site : Site} {k : Controller} {c : Compositor} {consumed : Nat}
    (h : CaptureAction.Keeps site (k, c) consumed) (hz : site.params.hasZeroSide = false)
    (hsize : site.params.frameSize < 2 ^ 32) (hs : k.state = .frameReady)
    (ha : c.armed .lock = none) :
    ∃ k' d, k.consume c =
        (.ok (site.capture consumed (UInt32.ofNat site.params.frameSize)), k', d) ∧
      k'.stats = { k.stats with framesConsumed := k.stats.framesConsumed + 1 } ∧
      Rests site (k', d) (consumed + 1) := by
  obtain ⟨frame, hframe⟩ := h.consumes hz hsize hs ha
  obtain rfl := h.captures hz hsize hframe
  have honward := Compositor.Onward.consume k c
  obtain ⟨f, htracks, hf⟩ := h
  obtain ⟨r, k', d, e', he, hd⟩ := htracks.consume
  have hp : k.framePending = true := htracks.noted hs
  have hmoving := hd.moving
  rw [he] at hframe honward
  obtain rfl : r = _ := hframe
  rw [show (k, c).1.framePending = true from hp] at hmoving hf
  generalize hnoted : k'.framePending = noted at hmoving
  generalize hr : Answer.consumed _ = answer at hmoving
  cases hmoving with
  | consumed hl hq hn =>
    refine ⟨k', d, he, hd.stats, ⟨f.lock, hd.tracks, hf.lock hq, rfl⟩, hnoted, ?_⟩
    exact honward.armed .lock ha
  | _ => cases hr

/-- Whether a wait is served; one without a bound always is. -/
def serves (timeout : Option Nat) (arrives : Nat → Bool) (round : Nat) : Bool :=
  timeout.isNone || arrives round

theorem waitOnce_eq (timeout : Option Nat) (arrives : Nat → Bool) (round : Nat) (k : Controller)
    (c : Compositor) : ∃ operation, waitOnce timeout (arrives round) k c =
      k.waitAs operation (serves timeout arrives round) c := by
  cases timeout with
  | none => exact ⟨.wait, rfl⟩
  | some => exact ⟨.waitTimeout, rfl⟩

/-- A turn is in vain as its wait is, or else captures the frame that is due. -/
theorem Rests.turn {site : Site} {k : Controller} {c : Compositor} {consumed : Nat}
    (h : Rests site (k, c) consumed) (hz : site.params.hasZeroSide = false)
    (hsize : site.params.frameSize < 2 ^ 32) (timeout : Option Nat) (arrives : Nat → Bool)
    (round : Nat) :
    ∃ k' d,
      (serves timeout arrives round = false ∧ Rests site (k', d) consumed ∧ k'.stats = k.stats ∧
        CommandLine.turn timeout (arrives round) k c = (.late, k', d)) ∨
      (serves timeout arrives round = true ∧ Rests site (k', d) (consumed + 1) ∧
        k'.stats = { k.stats with framesConsumed := k.stats.framesConsumed + 1 } ∧
        CommandLine.turn timeout (arrives round) k c =
          (.captured (site.capture consumed (UInt32.ofNat site.params.frameSize)), k', d)) := by
  obtain ⟨operation, hwait⟩ := waitOnce_eq timeout arrives round k c
  generalize serves timeout arrives round = served at hwait
  obtain ⟨k', d, hend, hstats, hlate, hready⟩ := h.waitAs operation served
  cases served with
  | false =>
    refine ⟨k', d, .inl ⟨rfl, hlate rfl, hstats, ?_⟩⟩
    simp only [CommandLine.turn, hwait, hend]
  | true =>
    obtain ⟨hkeeps, hs, ha⟩ := hready rfl
    obtain ⟨k'', d', hconsume, hstats', hrests⟩ := rests_of_consume hkeeps hz hsize hs ha
    refine ⟨k'', d', .inr ⟨rfl, hrests, by rw [hstats', hstats], ?_⟩⟩
    simp only [CommandLine.turn, hwait, hend, hconsume]

/-- The loop ends with the frame that makes up the limit; until then every turn captures the frame
that is due, or is in vain. -/
structure Completes (site : Site) (timeout : Option Nat) (arrives : Nat → Bool) (limit round : Nat)
    (t : Tally) (s : Controller × Compositor) (course : List Turn)
    (r : Ending × Tally × Controller × Compositor) : Prop where
  leads : Course timeout arrives round s course r.2.2
  ending : r.1 = .finished
  tally : r.2.1 = course.foldl Tally.note t
  rests : Rests site r.2.2 limit
  stats : r.2.2.1.stats =
    { s.1.stats with framesConsumed := s.1.stats.framesConsumed + (limit - t.consumed) }
  frames : framesOf course = (List.range' t.consumed (limit - t.consumed)).map
    fun n => site.capture n (UInt32.ofNat site.params.frameSize)
  quiet : ∀ done ∈ course, done = .late ∨ ∃ frame, done = .captured frame

theorem captureFrames_of_le {timeout : Option Nat} {arrives : Nat → Bool} {limit : Nat} {t : Tally}
    (h : limit ≤ t.consumed) (fuel round : Nat) (k : Controller) (c : Compositor) :
    captureFrames timeout limit arrives fuel round t k c = (.finished, t, k, c) := by
  cases fuel with
  | zero => rw [captureFrames, if_pos h]
  | succ fuel => rw [captureFrames, if_pos h]

namespace Completes

variable {site : Site} {timeout : Option Nat} {arrives : Nat → Bool} {limit round : Nat} {t : Tally}
  {k : Controller} {c : Compositor} {s : Controller × Compositor} {course : List Turn}
  {r : Ending × Tally × Controller × Compositor}

theorem stop (h : Rests site s t.consumed) (he : t.consumed = limit) :
    Completes site timeout arrives limit round t s [] (.finished, t, s) where
  leads := .stop
  ending := rfl
  tally := rfl
  rests := he ▸ h
  stats := by rw [he, Nat.sub_self]; rfl
  frames := by rw [he, Nat.sub_self]; rfl
  quiet := nofun

theorem late (h : Completes site timeout arrives limit (round + 1) (t.note .late) s course r)
    (hturn : turn timeout (arrives round) k c = (.late, s)) (hstats : s.1.stats = k.stats) :
    Completes site timeout arrives limit round t (k, c) (.late :: course) r where
  leads := .next hturn h.leads
  ending := h.ending
  tally := h.tally
  rests := h.rests
  stats := by rw [h.stats, hstats]; rfl
  frames := h.frames
  quiet := List.forall_mem_cons.mpr ⟨.inl rfl, h.quiet⟩

theorem captured {frame : Frame}
    (h : Completes site timeout arrives limit (round + 1) (t.note (.captured frame)) s course r)
    (hturn : turn timeout (arrives round) k c = (.captured frame, s))
    (hstats : s.1.stats = { k.stats with framesConsumed := k.stats.framesConsumed + 1 })
    (hframe : frame = site.capture t.consumed (UInt32.ofNat site.params.frameSize))
    (hlimit : t.consumed < limit) :
    Completes site timeout arrives limit round t (k, c) (.captured frame :: course) r := by
  have hconsumed : (t.note (.captured frame)).consumed = t.consumed + 1 := rfl
  have hleft : limit - t.consumed = limit - (t.consumed + 1) + 1 := by omega
  refine ⟨.next hturn h.leads, h.ending, h.tally, h.rests, ?_, ?_, ?_⟩
  · rw [h.stats, hstats, hconsumed, hleft, Nat.add_assoc, Nat.add_comm 1]
  · have hframes := h.frames
    rw [hconsumed] at hframes
    rw [framesOf, List.filterMap_cons, Turn.frame?, ← framesOf, hframes, hframe, hleft,
      List.range'_succ, List.map_cons]
  · exact List.forall_mem_cons.mpr ⟨.inr ⟨frame, rfl⟩, h.quiet⟩

end Completes

/-- If enough waits are served, the loop makes up the limit. -/
theorem Rests.completes {site : Site} {k : Controller} {c : Compositor} {t : Tally}
    (h : Rests site (k, c) t.consumed) (hz : site.params.hasZeroSide = false)
    (hsize : site.params.frameSize < 2 ^ 32) (timeout : Option Nat) (arrives : Nat → Bool)
    {limit fuel round : Nat} (hlimit : t.consumed ≤ limit)
    (hserved : limit ≤ t.consumed + (List.range' round fuel).countP (serves timeout arrives)) :
    ∃ course, Completes site timeout arrives limit round t (k, c) course
      (captureFrames timeout limit arrives fuel round t k c) := by
  -- Over the waits that may still be looked at; only a wait that is served takes from the limit.
  induction fuel generalizing round t k c with
  | zero =>
    have hdone : limit ≤ t.consumed := by simpa using hserved
    rw [captureFrames_of_le hdone]
    exact ⟨[], .stop h (Nat.le_antisymm hlimit hdone)⟩
  | succ fuel ih =>
    by_cases hdone : limit ≤ t.consumed
    · rw [captureFrames_of_le hdone]
      exact ⟨[], .stop h (Nat.le_antisymm hlimit hdone)⟩
    · rw [List.range'_succ, List.countP_cons] at hserved
      rw [captureFrames, if_neg hdone]
      obtain ⟨k', d, ⟨hno, hrests, hstats, hturn⟩ | ⟨hyes, hrests, hstats, hturn⟩⟩ :=
        h.turn hz hsize timeout arrives round
      · rw [hno] at hserved
        obtain ⟨course, hcourse⟩ := ih (t := t.note .late) hrests hlimit hserved
        rw [hturn]
        exact ⟨_, hcourse.late hturn hstats⟩
      · have hlt : t.consumed < limit := Nat.lt_of_not_le hdone
        have hserved' : limit ≤ t.consumed + 1 +
            (List.range' (round + 1) fuel).countP (serves timeout arrives) := by
          rw [hyes, if_pos rfl] at hserved
          omega
        obtain ⟨course, hcourse⟩ := ih (t := t.note (.captured _)) hrests hlt hserved'
        rw [hturn]
        exact ⟨_, hcourse.captured hturn hstats rfl hlt⟩

end CommandLine

end ScreenCapture
