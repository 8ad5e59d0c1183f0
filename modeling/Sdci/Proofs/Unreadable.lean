import Sdci.Proofs.AccessProtocol
import Sdci.Proofs.Codec.Positions

/-! # What a device does with a frame it cannot read

A frame that is spoilt on the line may arrive properly the next time. One that arrives properly and
still cannot be read will not get better, and the device gives up the link.

* `Device.Receives`: everything that a frame from the master can lead to.
* `Session.unreadable_frames`: why a frame cannot be read, and what comes of it.
-/

namespace Sdci
set_option autoImplicit false

open Trace

theorem MasterFrame.intact_of_decode {frame : Octets} {master : MasterFrame}
    (h : decode frame = .ok master) : Intact frame :=
  Decidable.not_not.1 fun broken => by cases h.symm.trans (decode_eq_badChecksum_iff.2 broken)

namespace Device

/-- A frame that arrives in an exchange, with the events and the device it leads to. -/
inductive Receives (d : Device) (mode : Mode) (frame : Octets) : Trace → Device → Prop
  | answered {master : MasterFrame} {es : Trace} {u : Device}
      (decode : MasterFrame.decode frame = .ok master)
      (closing : d.Closing mode frame master es u) : Receives d mode frame es u
  | oversized {master : MasterFrame} {es : Trace} (decode : MasterFrame.decode frame = .ok master)
      (failed : Confirms (.error .overflow) d.slots.openKinds es) :
      Receives d mode frame
        (es ++ [.linkEvent d.link .fatalError, .polled (some (.transferComplete frame))]) d.faulted
  | retried (broken : ¬Intact frame) (left : d.retries.left = true) :
      Receives d mode frame
        [.cycled, .linkEvent d.link .recoverableError, .polled (some (.transferComplete frame))]
        (d.retried mode .badChecksum)
  | exhausted {es : Trace} (broken : ¬Intact frame) (left : d.retries.left = false)
      (failed : Confirms (.error .badChecksum) d.slots.openKinds es) :
      Receives d mode frame
        (es ++ [.linkEvent (.active mode) .fatalError, .cycled,
          .linkEvent d.link .recoverableError, .polled (some (.transferComplete frame))])
        (d.failed mode .badChecksum).faulted
  | unreadable {cause : Failure} {es : Trace} (intact : Intact frame)
      (decode : MasterFrame.decode frame = .error cause)
      (failed : Confirms (.error cause) d.slots.openKinds es) :
      Receives d mode frame
        (es ++ [.linkEvent d.link .fatalError, .polled (some (.transferComplete frame))]) d.faulted

variable {d u : Device} {es : Trace} {mode : Mode} {frame : Octets}

theorem Mishap.spoilt_frame {cause : Failure}
    (h : Mishap d .poll cause (.polled (some (.transferComplete frame)))) :
    ¬Intact frame ∧ cause = .badChecksum := by
  cases h with
  | garbled decode minor =>
    have broken := (MasterFrame.recoverable_iff_of_decode decode).1 minor
    have bad := MasterFrame.decode_eq_badChecksum_iff.2 broken
    exact ⟨broken, Except.error.inj (decode.symm.trans bad)⟩

theorem Move.receives (h : Move .poll d es u) (link : d.link = .transferring mode)
    (first : es.getLast? = some (.polled (some (.transferComplete frame)))) :
    d.Receives mode frame es u := by
  cases h with
  | silence => cases first
  | ignore useless =>
    cases first
    rw [link] at useless
    cases useless
  | establish switching => cases link.symm.trans switching
  | exchange link' decode fits settles delivers signals serves =>
    simp only [← List.append_assoc, ← List.cons_append, List.getLast?_append,
      List.getLast?_cons_cons, List.getLast?_singleton, Option.some_or] at first
    cases first
    obtain rfl := Link.transferring.inj (link.symm.trans link')
    exact .answered decode (.intro settles delivers signals serves)
  | retry link' mishap left =>
    obtain rfl := Option.some.inj first
    obtain rfl := Link.transferring.inj (link.symm.trans link')
    obtain ⟨broken, rfl⟩ := mishap.spoilt_frame
    exact .retried broken left
  | exhaust link' mishap left failed =>
    rename_i mode' cause e es
    obtain rfl : e = .polled (some (.transferComplete frame)) := by simpa using first
    obtain rfl := Link.transferring.inj (link.symm.trans link')
    obtain ⟨broken, rfl⟩ := mishap.spoilt_frame
    exact .exhausted broken left failed
  | fault fatal failed =>
    rename_i cause e es
    obtain rfl : e = .polled (some (.transferComplete frame)) := by simpa using first
    cases fatal with
    | oversized link' decode long => exact .oversized decode failed
    | malformed link' decode major =>
      refine .unreadable (Decidable.not_not.1 fun broken => ?_) decode failed
      rw [(MasterFrame.recoverable_iff_of_decode decode).2 broken] at major
      cases major

/-- Of the frames that arrive the spoilt ones, and no others, are recoverable failures. -/
theorem Receives.failures (h : d.Receives mode frame es u) :
    es.countP Event.isFailure = if Intact frame then 0 else 1 := by
  have none {es : Trace} (upcalls : es.Upcalls) (begun : Trace) :
      (es ++ begun).countP Event.isFailure = begun.countP Event.isFailure := by
    have silent : es.Lacks Event.isFailure :=
      upcalls.lacks fun e upcall => by cases e <;> first | rfl | cases upcall
    have zero : es.countP Event.isFailure = 0 :=
      List.countP_eq_zero.2 fun e mem => by rw [silent e mem]; exact Bool.false_ne_true
    rw [List.countP_append, zero, Nat.zero_add]
  cases h with
  | answered decode closing =>
    cases closing with
    | intro settles delivers signals serves =>
      obtain ⟨upcalls, called, whole⟩ := upcalls_exchange settles delivers signals serves
        [.linkEvent d.link .transferSucceeded, .polled (some (.transferComplete frame))] []
      rw [List.append_nil, List.append_nil] at whole
      rw [whole, none called, if_pos (MasterFrame.intact_of_decode decode)]
      rfl
  | oversized decode failed =>
    rw [none failed.upcalls, if_pos (MasterFrame.intact_of_decode decode)]
    rfl
  | retried broken left =>
    rw [if_neg broken]
    rfl
  | exhausted broken left failed =>
    rw [none failed.upcalls, if_neg broken]
    rfl
  | unreadable intact decode failed =>
    rw [none failed.upcalls, if_pos intact]
    rfl

theorem Receives.kept (h : d.Receives mode frame es u) (broken : ¬Intact frame)
    (left : d.retries.left = true) : u = d.retried mode .badChecksum := by
  cases h with
  | answered decode => exact absurd (MasterFrame.intact_of_decode decode) broken
  | oversized decode => exact absurd (MasterFrame.intact_of_decode decode) broken
  | retried => rfl
  | exhausted broken spent => cases left.symm.trans spent
  | unreadable intact => exact absurd intact broken

/-- A frame that cannot be read breaks the device, unless it is spoilt and a retry is left. -/
theorem breaks_of_decode_error {cause : Failure} (link : d.link = .transferring mode)
    (decode : MasterFrame.decode frame = .error cause)
    (final : Intact frame ∨ d.retries.left = false) :
    d.Breaks .poll cause (.polled (some (.transferComplete frame))) := by
  have recoverable := MasterFrame.recoverable_iff_of_decode decode
  by_cases intact : Intact frame
  · refine .fatal (.malformed link decode (Bool.eq_false_iff.2 fun minor => ?_))
    exact recoverable.1 minor intact
  · exact .exhausted link (.garbled decode (recoverable.2 intact)) (final.resolve_left intact)

end Device

namespace Session

open Device

variable {σ : Type} [Transceiver σ] [Application σ]

/-- A frame is not read if its checksum is bad, and otherwise if it is malformed or asks for too
long a write; no position is asked for that it does not have. In an exchange a bad checksum, and
nothing else, is a failure to recover from: the frame sent is kept if a retry is left. Any other
frame that is not read stops communication in the tick it arrives in, whatever retries are left,
and every open request fails with the reason. -/
theorem unreadable_frames (frame : Octets) :
    (MasterFrame.decode frame = .error .badChecksum ↔
      frame.length < 2 ∨ frame.getLastD 0 &&& 0xC0 ≠ 0 ∨
        frame.getLastD 0 ≠ checksum (frame.dropLast ++ [0])) ∧
    (Intact frame →
      (MasterFrame.decode frame = .error .protocol ↔ MasterFrame.Malformed frame) ∧
      (MasterFrame.decode frame = .error .overflow ↔ MasterFrame.Oversized frame)) ∧
    (∀ cause, MasterFrame.decode frame = .error cause →
      (cause = .badChecksum ∨ cause = .protocol ∨ cause = .overflow) ∧
      (cause.recoverable = true ↔ ¬Intact frame)) ∧
    MasterFrame.decodeAt frame = some (MasterFrame.decode frame) ∧
    ∀ (s : Session σ) now mode, s.device.link = .transferring mode →
      (s.tick now).env.trace.indication = some (.transferComplete frame) →
      let u := s.enterTick now
      let t := u.poll now
      t.env.trace.countP Event.isFailure =
        u.env.trace.countP Event.isFailure + (if Intact frame then 0 else 1) ∧
      (¬Intact frame → u.device.retries.left = true →
        t.device = u.device.retried mode .badChecksum) ∧
      ∀ cause, MasterFrame.decode frame = .error cause →
        Intact frame ∨ u.device.retries.left = false →
        ∃ es, (s.tick now).env.trace.bare = es ++ u.env.trace.bare ∧
          u.device.Halts cause es (s.tick now).device := by
  refine ⟨?_, fun intact => ⟨?_, ?_⟩, fun cause decode => ⟨?_, ?_⟩,
    MasterFrame.decodeAt_eq frame, fun s now mode link report => ?_⟩
  · rw [MasterFrame.decode_eq_badChecksum_iff, Intact, not_and_or, not_and_or, Nat.not_le]
  · rw [MasterFrame.decode_eq_protocol_iff, and_iff_right intact]
  · rw [MasterFrame.decode_eq_overflow_iff, and_iff_right intact]
  · by_cases intact : Intact frame
    · rcases MasterFrame.cases_of_decode_error intact decode with ⟨rfl, -⟩ | ⟨rfl, -⟩
      · exact .inr (.inl rfl)
      · exact .inr (.inr rfl)
    · have bad := MasterFrame.decode_eq_badChecksum_iff.2 intact
      exact .inl (Except.error.inj (decode.symm.trans bad))
  · exact MasterFrame.recoverable_iff_of_decode decode
  · intro u t
    obtain ⟨-, ⟨es, polled, move⟩, -, -⟩ := s.performs_tick now
    have first := move.first_poll u.env.trace.bare
    rw [← polled, indication_bare, ← indication_tick, report] at first
    have receives : u.device.Receives mode frame es t.device := move.receives link first
    refine ⟨?_, fun broken left => ?_, fun cause decode final => ?_⟩
    · rw [countP_of_bare (fun e remark => by cases e <;> first | rfl | cases remark) polled,
        receives.failures, Nat.add_comm]
    · exact receives.kept broken left
    · have breaks := breaks_of_decode_error (d := u.device) link decode final
      exact Fails.halts (.reported (by rw [report]; exact breaks))

/-- A control code that does not exist stops a device with a retry left, and what it had to send is
lost. -/
theorem unreadable_frames_unknown_control :
    let s := Bench.exchanging.mapHost fun b =>
      { b with wire := { b.wire with queue := [.transferComplete (sealed [6])] } }
    Reach s ∧ s.device.retries.left = true ∧
      MasterFrame.decode (sealed [6]) = .error .protocol ∧
      s.device.link = .transferring .com1 ∧
      (s.tick 4000).env.trace.indication = some (.transferComplete (sealed [6])) ∧
      (s.tick 4000).link = .fault ∧ ∃ es, es.confirmations =
        [(.event, .error .protocol), (.input, .error .protocol)] ∧
        (s.tick 4000).env.trace.bare = es ++ (s.enterTick 4000).env.trace.bare := by
  intro s
  have reach : Reach s := Bench.reach_exchanging.step (.mapHost ..)
  have link : s.device.link = .transferring .com1 := by decide +kernel
  have report : (s.tick 4000).env.trace.indication = some (.transferComplete (sealed [6])) := by
    decide +kernel
  have intact : Intact (sealed [6]) := intact_sealed (by simp)
  have unknown : MasterFrame.Malformed (sealed [6]) := ⟨6, [], rfl, .inl (by decide)⟩
  have openKinds : (s.enterTick 4000).device.slots.openKinds = [.input, .event] := by decide +kernel
  obtain ⟨-, reasons, -, -, device⟩ := unreadable_frames (σ := Bench) (sealed [6])
  have decode := (reasons intact).1.2 unknown
  obtain ⟨es, trace, halts⟩ := (device s 4000 .com1 link report).2.2 .protocol decode (.inl intact)
  have failed := halts.failed
  rw [openKinds] at failed
  exact ⟨reach, by decide +kernel, decode, link, report, halts.stopped.link, es, failed, trace⟩

end Session

end Sdci
