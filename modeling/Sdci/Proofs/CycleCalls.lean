import Sdci.Proofs.Course

/-! # The call at the end of a cycle

The application is called when a transfer is over, once and before the next one ends: after a valid
answer, after a spoilt one and after none in time. A frame that breaks off communication, because
it is malformed or has too much output data, ends its transfer without that call.

* `Event.breaksOff`: the answer stops communication at once.
* `Trace.owed`: the calls that are due.
* `Trace.Punctual`: each call is due when it is made, and none is when a transfer ends.
* `Session.Reach.cycle_called_iff`: in every run only answers that break off lack the call.
-/

namespace Sdci
set_option autoImplicit false

namespace Event

def isCycled : Event → Bool
  | cycled => true
  | _ => false

def breaksOff (c : Config) (before : Trace) : Event → Bool
  | polled (some (.transferComplete frame)) =>
    match before.link, MasterFrame.decode frame with
    | .transferring _, .error cause => !cause.recoverable
    | .transferring mode, .ok master =>
      decide (c.outputLimit mode (before.negotiated c.com) < master.output.length)
    | _, _ => false
  | _ => false

theorem uncycled_of_steers {e : Event} (apart : e.steers = false) : e.isCycled = false := by
  cases e <;> first | rfl | cases apart

theorem breaksOff_eq_false {c : Config} {before : Trace} {e : Event}
    (running : e.endsTransfer before = false) : e.breaksOff c before = false := by
  unfold breaksOff
  split
  · rename_i frame
    change before.link.isTransferring = false at running
    split
    · rename_i link _
      rw [link] at running
      cases running
    · rename_i link _
      rw [link] at running
      cases running
    · rfl
  · rfl

end Event

open Event

namespace Trace

/-- How many calls are due: one for each transfer that has ended and was not broken off, less those
that have been made. -/
def owed (c : Config) (t : Trace) : Int :=
  t.occurrences endsTransfer - t.occurrences (breaksOff c) - t.countP isCycled

/-- A call is made when one is due, and a transfer ends when none is. -/
def Punctual (c : Config) (t : Trace) : Prop :=
  ∀ (e : Event) (m : Trace), e :: m <:+ t →
    (e = .cycled → m.owed c = 1) ∧ (endsTransfer m e = true → m.owed c = 0)

variable {c : Config} {e : Event} {es t : Trace}

theorem owed_cons (e : Event) (t : Trace) :
    owed c (e :: t) =
      owed c t + (endsTransfer t e).toNat - (breaksOff c t e).toNat - e.isCycled.toNat := by
  unfold owed
  rw [occurrences, occurrences, List.countP_cons]
  cases e.isCycled <;> simp <;> omega

theorem owed_bare (t : Trace) : owed c (bare t) = owed c t := by
  have ended : (bare t).occurrences endsTransfer = t.occurrences endsTransfer := by
    refine occurrences_bare (fun e m remark => ?_) (fun e m => ?_) t
    · cases e <;> first | rfl | cases remark
    · unfold endsTransfer
      rw [link_bare]
  have broken : (bare t).occurrences (breaksOff c) = t.occurrences (breaksOff c) := by
    refine occurrences_bare (fun e m remark => ?_) (fun e m => ?_) t
    · cases e <;> first | rfl | cases remark
    · unfold breaksOff
      rw [link_bare, negotiated_bare]
  have called : (bare t).countP isCycled = t.countP isCycled :=
    countP_bare (fun e remark => by cases e <;> first | rfl | cases remark) t
  rw [owed, ended, broken, called, owed]

theorem punctual_nil : Punctual c [] := fun _ _ latest => nomatch latest.length_le

theorem punctual_cons : Punctual c (e :: t) ↔
    ((e = .cycled → t.owed c = 1) ∧ (endsTransfer t e = true → t.owed c = 0)) ∧ t.Punctual c := by
  constructor
  · intro h
    exact ⟨h e t List.suffix_rfl, fun x m latest => h x m (latest.trans (List.suffix_cons e t))⟩
  · rintro ⟨last, rest⟩ x m latest
    rcases List.suffix_cons_iff.1 latest with whole | earlier
    · obtain ⟨rfl, rfl⟩ := List.cons.inj whole
      exact last
    · exact rest x m earlier

theorem Punctual.of_bare (h : (bare t).Punctual c) : t.Punctual c := by
  intro e m latest
  rw [← owed_bare m]
  constructor
  · rintro rfl
    exact (h .cycled (bare m) (suffix_bare rfl latest)).1 rfl
  · intro ended
    have own : e.isRemark = false := by cases e <;> first | rfl | cases ended
    refine (h e (bare m) (suffix_bare own latest)).2 ?_
    rw [← ended]
    unfold endsTransfer
    rw [link_bare]

/-- The calls have been made on time, and this many are due. -/
structure Owes (c : Config) (n : Int) (t : Trace) : Prop where
  owed : t.owed c = n
  punctual : t.Punctual c

namespace Owes

variable {n : Int}

theorem aside (h : t.Owes c n) (aside : es.Aside t) : (es ++ t).Owes c n := by
  induction es with
  | nil => exact h
  | cons e es ih =>
    obtain ⟨⟨apart, running⟩, rest⟩ := aside_cons.1 aside
    obtain ⟨owed, punctual⟩ := ih rest
    refine ⟨?_, punctual_cons.2 ⟨⟨?_, ?_⟩, punctual⟩⟩
    · rw [List.cons_append, owed_cons, running, breaksOff_eq_false running,
        uncycled_of_steers apart, owed]
      simp
    · rintro rfl
      cases apart
    · intro ended
      cases running.symm.trans ended

theorem link (h : t.Owes c n) (source : Link) (event : Link.Event) :
    Owes c n (.linkEvent source event :: t) := by
  refine ⟨?_, punctual_cons.2 ⟨⟨nofun, nofun⟩, h.punctual⟩⟩
  rw [owed_cons, h.owed]
  simp [endsTransfer, breaksOff, isCycled]

theorem ended (h : t.Owes c 0) (ends : endsTransfer t e = true) (whole : breaksOff c t e = false) :
    Owes c 1 (e :: t) := by
  have uncalled : e ≠ .cycled := by
    rintro rfl
    cases ends
  have uncycled : e.isCycled = false := by cases e <;> first | rfl | cases ends
  refine ⟨?_, punctual_cons.2 ⟨⟨fun call => absurd call uncalled, fun _ => h.owed⟩, h.punctual⟩⟩
  rw [owed_cons, h.owed, ends, whole, uncycled]
  rfl

theorem called (h : t.Owes c 1) : Owes c 0 (.cycled :: t) := by
  refine ⟨?_, punctual_cons.2 ⟨⟨fun _ => h.owed, nofun⟩, h.punctual⟩⟩
  rw [owed_cons, h.owed]
  rfl

/-- What ends a transfer makes no call due if it breaks it off, nor does what ends none. -/
theorem undue (h : t.Owes c 0) (uncycled : e.isCycled = false)
    (breaks : breaksOff c t e = endsTransfer t e) : Owes c 0 (e :: t) := by
  refine ⟨?_, punctual_cons.2 ⟨⟨?_, fun _ => h.owed⟩, h.punctual⟩⟩
  · rw [owed_cons, h.owed, breaks, uncycled]
    simp
  · rintro rfl
    cases uncycled

end Owes

end Trace

open Trace

namespace Device

variable {c : Config} {d : Device} {p : Phase} {cause : Failure} {e : Event} {t : Trace}

theorem Mishap.ends (h : Mishap d p cause e) (told : d.Told t) {mode : Mode}
    (link : d.link = .transferring mode) :
    endsTransfer t e = true ∧ breaksOff c t e = false := by
  have busy : t.link.isTransferring = true := by rw [told.link, link]; rfl
  cases h with
  | garbled decode minor =>
    refine ⟨busy, ?_⟩
    simp [breaksOff, told.link, link, decode, minor]
  | spoilt => exact ⟨busy, rfl⟩
  | unanswered => exact ⟨rfl, rfl⟩

/-- Of the reports that stop the link at once, those that end a transfer break it off. -/
theorem Fatal.breaks (h : Fatal d p cause e) (told : d.Told t) (limited : d.Limited t) :
    breaksOff d.config t e = endsTransfer t e ∧ e.isCycled = false := by
  cases h with
  | hardware => exact ⟨rfl, rfl⟩
  | wrongMode => exact ⟨rfl, rfl⟩
  | malformed link decode major =>
    refine ⟨?_, rfl⟩
    simp [breaksOff, endsTransfer, told.link, link, decode, major, Link.isTransferring]
  | oversized link decode long =>
    rename_i mode frame master
    have limit : d.images.output.maxLength =
        d.config.outputLimit mode (t.negotiated d.config.com) :=
      limited.output mode (by rw [link]; rfl)
    rw [limit] at long
    refine ⟨?_, rfl⟩
    simp [breaksOff, endsTransfer, told.link, link, decode, long, Link.isTransferring]
  | unsupervised due watch other =>
    refine ⟨?_, rfl⟩
    simp [breaksOff, endsTransfer, other]

/-- The answer of the master ends the transfer. -/
theorem ends_of_reply {frame : Octets}
    (reply : Event.isReply c t (.polled (some (.transferComplete frame))) = true) :
    endsTransfer t (.polled (some (.transferComplete frame))) = true ∧
      breaksOff c t (.polled (some (.transferComplete frame))) = false := by
  obtain ⟨master, some⟩ := Option.isSome_iff_exists.1 reply
  simp only [Event.reply?] at some
  split at some
  · rename_i mode master' link decode
    split at some
    · rename_i fits
      simp [endsTransfer, breaksOff, link, decode, fits, Link.isTransferring]
    · cases some
  · cases some

/-- Between two moves no call is due. -/
theorem Course.owes {u : Device} {es : Trace} (course : d.Course t es u) (told : d.Told t)
    (limited : d.Limited t) (before : t.Owes d.config 0) : Owes d.config 0 (es ++ t) := by
  cases course with
  | apart aside => exact before.aside aside
  | switch idle aside => exact (before.aside aside).link ..
  | launch => exact (before.undue rfl rfl).link ..
  | answer link reply aside =>
    obtain ⟨ends, whole⟩ := ends_of_reply reply
    rw [List.cons_append, List.append_assoc]
    exact (((before.ended ends whole).link ..).aside (aside _)).called
  | retry link mishap =>
    obtain ⟨ends, whole⟩ := mishap.ends told link
    exact ((before.ended ends whole).link ..).called
  | exhaust link mishap spent aside =>
    obtain ⟨ends, whole⟩ := mishap.ends told link
    rw [List.append_assoc]
    exact (((before.ended ends whole).link ..).called.link ..).aside (aside _)
  | fault fatal aside =>
    obtain ⟨breaks, uncycled⟩ := fatal.breaks told limited
    rw [List.append_assoc]
    exact ((before.undue uncycled breaks).link ..).aside (aside _)

theorem Run.owes (h : Run c d t) : t.Owes c 0 := by
  induction h with
  | start => exact ⟨rfl, punctual_nil⟩
  | move before last ih =>
    have course := before.course last
    have config := before.config_eq
    rw [← config] at ih ⊢
    exact course.owes before.told before.limited ih

end Device

namespace Session

variable {σ : Type} [Transceiver σ] [Application σ] {s : Session σ}

/-- In every run the call that ends a cycle is made once for each transfer that has ended, by a
report on it or by its timer, except for the answers that break off. So as many calls are made as
transfers end just if no answer has broken off. Each call is made while one is due, and a transfer
ends while none is. -/
theorem Reach.cycle_called_iff (h : Reach s) :
    let c := s.device.config
    let calls := s.env.trace.countP isCycled
    let ended := s.env.trace.occurrences endsTransfer
    let broken := s.env.trace.occurrences (breaksOff c)
    calls + broken = ended ∧ (calls = ended ↔ broken = 0) ∧
      ∀ e (m : Trace), e :: m <:+ s.env.trace →
        (e = .cycled → m.owed c = 1) ∧ (endsTransfer m e = true → m.owed c = 0) := by
  intro c calls ended broken
  obtain ⟨c', -, run⟩ := h.run
  have same : s.device.config = c' := run.config_eq
  have owes := run.owes
  rw [← same] at owes
  have none : s.env.trace.owed c = 0 := (owed_bare _).symm.trans owes.owed
  have whole : calls + broken = ended := by
    unfold owed at none
    omega
  refine ⟨whole, by omega, owes.punctual.of_bare⟩

/-- A device in the middle of its second exchange: one transfer has ended, with its call. -/
theorem cycle_called_exchanging :
    Reach Bench.exchanging ∧
      Bench.exchanging.env.trace.occurrences (breaksOff Bench.exchanging.device.config) = 0 ∧
      Bench.exchanging.env.trace.countP isCycled =
        Bench.exchanging.env.trace.occurrences endsTransfer := by
  have reach := Bench.reach_exchanging
  have whole : Bench.exchanging.env.trace.occurrences
      (breaksOff Bench.exchanging.device.config) = 0 := by decide +kernel
  obtain ⟨-, iff, -⟩ := reach.cycle_called_iff
  exact ⟨reach, whole, iff.2 whole⟩

end Session

/-! ## A transfer without its call -/

namespace Bench

open Session

/-- A device in COM1 whose first frame is on the line. The master will answer with a control code
that does not exist. -/
def misanswered : Session Bench :=
  let master := fresh.mapHost fun b =>
    { b with wire := { b.wire with rawReply := some (sealed [6]) } }
  ((master.setMode .com1).2.tick 1000).tick 2000

theorem reach_misanswered : Reach misanswered :=
  (((reach_fresh.step (.mapHost ..)).submit ⟨.setMode, .com1⟩ nofun).tick 1000).tick 2000

/-- The answer is intact and ends the transfer, but the application is not called. -/
theorem unknown_control_uncalled :
    Reach misanswered ∧ Intact (sealed [6]) ∧
      (misanswered.tick 3000).env.trace.indication = some (.transferComplete (sealed [6])) ∧
      misanswered.env.trace.occurrences endsTransfer = 0 ∧
      (misanswered.tick 3000).env.trace.occurrences endsTransfer = 1 ∧
      (misanswered.tick 3000).env.trace.countP isCycled = 0 := by
  refine ⟨reach_misanswered, intact_sealed nofun, ?_, ?_, ?_, ?_⟩ <;> decide +kernel

end Bench

end Sdci
