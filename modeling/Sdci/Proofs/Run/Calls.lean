import Sdci.Proofs.Run.Move

/-! # What calls of the host enter into the trace

Each call of the transceiver or the application enters one event, with the host's answer; the log
adds remarks only. Closing requests enters their confirmations.
-/

namespace Sdci
set_option autoImplicit false

/-! ## One call -/

namespace Env

variable {σ : Type}

theorem bare_enter {e : Env σ} {event : Event} (h : event.isRemark = false) :
    (e.enter event).trace.bare = event :: e.trace.bare :=
  Trace.bare_cons h _

theorem bare_answered {e : Env σ} {host : σ} {event : Event} (h : event.isRemark = false) :
    (e.answered host event).trace.bare = event :: e.trace.bare :=
  Trace.bare_cons h _

theorem bare_note {e : Env σ} {m : Message} (h : m.isRemark = true) :
    (e.note m).trace.bare = e.trace.bare :=
  Trace.bare_cons_remark (e := .noted ⟨e.device, m⟩) h _

section Transceiver

variable [Transceiver σ]

theorem bare_setMode (e : Env σ) (m : Mode) :
    (e.setMode m).2.trace.bare = .modeSet m (e.setMode m).1 :: e.trace.bare := by
  unfold setMode
  dsimp only
  rw [bare_note, bare_answered rfl]
  split <;> rfl

theorem bare_transfer (e : Env σ) (frame : Octets) :
    (e.transfer frame).2.trace.bare =
      .transferred frame (e.transfer frame).1 :: e.trace.bare := by
  unfold transfer
  dsimp only
  rw [bare_note rfl, bare_answered rfl]

theorem bare_poll (e : Env σ) : e.poll.2.trace.bare = .polled e.poll.1 :: e.trace.bare := by
  unfold poll
  dsimp only
  split
  · rename_i h
    rw [bare_note rfl, bare_answered rfl, h]
  · rename_i h
    rw [bare_answered rfl, h]

end Transceiver

section Application

variable [Application σ]

theorem bare_cycle (e : Env σ) : e.cycle.trace.bare = .cycled :: e.trace.bare :=
  bare_answered rfl

theorem bare_offerOutput (e : Env σ) (data : Octets) :
    (e.offerOutput data).2.trace.bare =
      .outputOffered data (e.offerOutput data).1 :: e.trace.bare :=
  bare_answered rfl

theorem bare_offerControl (e : Env σ) (code : Control) :
    (e.offerControl code).2.trace.bare =
      .controlOffered code (e.offerControl code).1 :: e.trace.bare :=
  bare_answered rfl

theorem bare_read (e : Env σ) (index : UInt16) (subindex : UInt8) :
    (e.read index subindex).2.trace.bare =
      .read index subindex (e.read index subindex).1 :: e.trace.bare :=
  bare_answered rfl

theorem bare_write (e : Env σ) (index : UInt16) (subindex : UInt8) (value : Octets) :
    (e.write index subindex value).2.trace.bare =
      .written index subindex value (e.write index subindex value).1 :: e.trace.bare :=
  bare_answered rfl

theorem bare_confirm (e : Env σ) (kind : Service) (outcome : Outcome) :
    ∃ acknowledged, (e.confirm kind outcome).trace.bare =
      .confirmed kind outcome acknowledged :: e.trace.bare := by
  obtain ⟨call, rfl⟩ := kind.exists_confirmation
  refine ⟨(Application.confirm call outcome e.host).1, ?_⟩
  rw [confirm_kind]
  unfold tell
  dsimp only
  split
  · rw [bare_note rfl, bare_answered rfl]
  · rw [bare_answered rfl]

end Application

end Env

/-! ## Closing requests -/

namespace Session

variable {σ : Type}

theorem bare_advance (s : Session σ) (event : Link.Event) :
    (s.advance event).env.trace.bare =
      .linkEvent s.device.link event :: s.env.trace.bare := by
  unfold advance
  dsimp only
  split
  · exact Env.bare_enter rfl
  · exact (Env.bare_note rfl).trans (Env.bare_enter rfl)

section Closing

variable [Application σ]

theorem foldl_confirm (cause : Failure) (ts : List AnyTicket) (e : Env σ) :
    ∃ es, Confirms (.error cause) (ts.map AnyTicket.kind) es ∧
      (ts.foldl (fun env t => env.confirm t.kind (.error cause)) e).trace.bare =
        es ++ e.trace.bare := by
  induction ts generalizing e with
  | nil => exact ⟨[], .nil, rfl⟩
  | cons t ts ih =>
    obtain ⟨a, ha⟩ := e.bare_confirm t.kind (.error cause)
    obtain ⟨es, hes, h⟩ := ih (e.confirm t.kind (.error cause))
    refine ⟨es ++ [.confirmed t.kind (.error cause) a], ?_, ?_⟩
    · rw [List.map_cons]
      exact .cons a hes
    · rw [List.foldl_cons, h, ha, List.append_assoc]
      rfl

theorem bare_failWhere (s : Session σ) (cause : Failure) (select : Service → Bool) :
    ∃ es, Confirms (.error cause) (s.device.slots.among (Service.all.filter select)) es ∧
      (s.failWhere cause select).env.trace.bare = es ++ s.env.trace.bare := by
  have h := foldl_confirm cause (s.device.slots.tickets (Service.all.filter select)) s.env
  rwa [Slots.kinds_tickets] at h

theorem bare_finish (s : Session σ) (kind : Service) (outcome : Outcome) :
    ∃ es, Confirms outcome (s.device.slots.among [kind]) es ∧
      (s.finish kind outcome).env.trace.bare = es ++ s.env.trace.bare := by
  rw [Slots.among_single]
  unfold finish
  split
  · obtain ⟨a, ha⟩ := s.env.bare_confirm kind outcome
    exact ⟨[.confirmed kind outcome a], .cons a .nil, ha⟩
  · exact ⟨[], .nil, rfl⟩

theorem bare_finish_open {s : Session σ} {kind : Service} (h : s.device.slots.isOpen kind)
    (outcome : Outcome) :
    ∃ acknowledged, (s.finish kind outcome).env.trace.bare =
      .confirmed kind outcome acknowledged :: s.env.trace.bare := by
  unfold finish
  rw [if_pos h]
  exact s.env.bare_confirm kind outcome

end Closing

end Session

end Sdci
