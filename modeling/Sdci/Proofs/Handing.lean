import Sdci.Proofs.Discipline
import Sdci.Proofs.Retry

/-! # What the transceiver is handed

Whenever the transceiver is offered a frame, the device has chosen it just then: the frame that it
keeps for another attempt, or a new one.

* `Device.Chooses`: the frames a device may offer.
* `Device.Run.chooses_of_offer`: every frame of a history was chosen so.
* `Device.Acts`: all that a call of the dispatch work brings about.
* `Session.acts_of_call`: the call of a tick is made by the device that there is once its timers are
  served and get-mode is answered.
-/

namespace Sdci
set_option autoImplicit false

open Trace

/-- What the transceiver is offered, and its answer. -/
def Event.call? : Event → Option ((Mode ⊕ Octets) × Bool)
  | modeSet mode accepted => some (.inl mode, accepted)
  | transferred frame accepted => some (.inr frame, accepted)
  | _ => none

theorem Event.eq_of_call? {e e' : Event} {x : (Mode ⊕ Octets) × Bool} (h : e.call? = some x)
    (h' : e'.call? = some x) : e = e' := by
  cases e <;> cases h <;> cases e' <;> cases h' <;> rfl

namespace Device

/-- The device offers this frame if it has a frame to offer. -/
def Chooses (d : Device) (out : InFlight) : Prop := d.choose = .again out ∨ d.choose = .fresh out

theorem Run.suits {c : Config} {d : Device} {t : Trace} (h : Run c d t) {out : InFlight}
    (chosen : d.Chooses out) : out.Suits d.images.input := by
  rcases chosen with again | fresh
  · exact (h.kept out (choose_again again)).1
  · exact suits_of_fresh fresh

/-- What rides on a chosen frame is an open request, and the frame is the frame of that request. -/
theorem Run.frame_of_chosen {c : Config} {d : Device} {t : Trace} (h : Run c d t) {out : InFlight}
    (chosen : d.Chooses out) {k : Service} (carries : out.carries = some k) :
    ∃ r, d.slots.request? k = some r ∧ out.frame = d.frameOf r := by
  rcases chosen with again | fresh
  · exact h.carries out k (choose_again again) carries
  · exact frame_of_fresh fresh carries

/-- So a chosen frame is one that the device would make now. -/
theorem Run.builds_of_chosen {c : Config} {d : Device} {t : Trace} (h : Run c d t) {out : InFlight}
    (chosen : d.Chooses out) : d.Builds out :=
  builds_of_suits (h.suits chosen) fun _ carries => h.frame_of_chosen chosen carries

/-- Every frame offered was chosen by the device that there was, on the history up to the offer. -/
theorem Run.chooses_of_offer {c : Config} {d : Device} {t before : Trace} (h : Run c d t)
    {frame : Octets} {accepted : Bool} (offer : .transferred frame accepted :: before <:+ t) :
    ∃ v out, Run c v before ∧ v.Chooses out ∧ frame = out.frame.encode := by
  induction h with
  | start => cases List.suffix_nil.1 offer
  | move earlier last ih =>
    rcases suffix_append offer with old | ⟨m, rfl, latest⟩
    · exact ih old
    · obtain ⟨rfl, out, chosen, same⟩ := last.offers latest
      exact ⟨_, out, earlier, chosen, same⟩

/-- A call of the dispatch work, with what it enters into the trace after it and the device it
leaves. -/
inductive Acts (d : Device) : Event → Trace → Device → Prop
  | launch {mode : Mode} {out : InFlight} (link : d.link = .active mode)
      (settled : d.slots.pending .setMode = none) (chosen : d.Chooses out) :
      Acts d (.transferred out.frame.encode true) [.linkEvent d.link .transferAccepted]
        (d.launched mode out)
  | busy {mode : Mode} {out : InFlight} (link : d.link = .active mode)
      (settled : d.slots.pending .setMode = none) (chosen : d.Chooses out) :
      Acts d (.transferred out.frame.encode false) [] d
  | switch {ticket : Ticket .setMode} (pending : d.slots.pending .setMode = some ticket) :
      Acts d (.modeSet ticket.payload true) [.linkEvent d.link (.modeSetAccepted ticket.payload)]
        (d.switched ticket.payload)
  | refuse {ticket : Ticket .setMode} (pending : d.slots.pending .setMode = some ticket)
      (acknowledged : Bool) :
      Acts d (.modeSet ticket.payload false)
        [.confirmed .setMode (.error .badParameter) acknowledged]
        { d with slots := d.slots.close .setMode }

theorem Move.acts {d u : Device} {es : Trace} (h : Move .work d es u) (housed : d.Housed)
    {call : Event} (made : es.calls = [call]) :
    ∃ later, es = later ++ [call] ∧ d.Acts call later u := by
  cases h with
  | retry link mishap => cases mishap
  | exhaust link mishap => cases mishap
  | fault fatal => cases fatal
  | answerMode => cases made
  | serve => cases made
  | drop => cases made
  | switch quiet idle pending lost =>
    rw [housed.leftovers] at lost
    cases lost
    cases made
    exact ⟨_, rfl, .switch pending⟩
  | refuseMode a quiet idle pending lost =>
    rw [housed.leftovers] at lost
    cases lost
    cases made
    rw [housed.survivors_eq]
    exact ⟨_, rfl, .refuse pending a⟩
  | launch unhurried link chosen =>
    cases made
    exact ⟨_, rfl, .launch link unhurried.settled chosen⟩
  | busy unhurried link chosen =>
    cases made
    exact ⟨[], rfl, .busy link unhurried.settled chosen⟩

end Device

namespace Session

open Device

variable {σ : Type} {s t : Session σ} {c : Config} {frame : Octets} {accepted : Bool}

theorem Makes.acts (h : Makes .work s t) (run : Run c s.device s.env.trace.bare) {call : Event}
    (made : t.env.trace.calls = call :: s.env.trace.calls) :
    ∃ later, t.env.trace.bare = later ++ call :: s.env.trace.bare ∧
      s.device.Acts call later t.device := by
  obtain ⟨es, trace, move⟩ := h
  have entered : es.calls ++ s.env.trace.bare.calls = call :: s.env.trace.bare.calls := by
    rw [calls_bare s.env.trace, ← made, ← calls_bare t.env.trace, trace, ← calls_bare s.env.trace]
    exact (List.filter_append ..).symm
  have one : es.calls = [call] :=
    List.append_cancel_right (entered.trans (List.singleton_append ..).symm)
  obtain ⟨later, rfl, acts⟩ := move.acts run.housed one
  exact ⟨later, trace.trans (List.append_assoc ..), acts⟩

variable [Transceiver σ] [Application σ]

theorem run_prepare (run : Run c s.device s.env.trace.bare) (now : Nat) :
    Run c (s.prepare now).device (s.prepare now).env.trace.bare :=
  (s.performs_prepare now).run (run_attend run now)

/-- The call is all that happens once the device is prepared. -/
theorem acts_of_call (run : Run c s.device s.env.trace.bare) {now : Nat} {call : Event}
    (made : (s.tick now).env.trace.calls = call :: s.env.trace.calls) :
    ∃ later, (s.tick now).env.trace.bare = later ++ call :: (s.prepare now).env.trace.bare ∧
      (s.prepare now).device.Acts call later (s.tick now).device := by
  have prepared := run_prepare run now
  have quiet := s.quiet_prepare now
  have works := s.works_tick now
  rw [← calls_prepare run now] at made
  generalize s.tick now = t at made works
  cases works with
  | switch idle pending => exact (makes_switchTo quiet idle pending).acts prepared made
  | serve => exact absurd (made.symm.trans (calls_serveAllLocally _)) (List.cons_ne_self _ _)
  | exchange active settled => exact (makes_exchange ⟨quiet, settled⟩ active).acts prepared made
  | rest => exact absurd made.symm (List.cons_ne_self _ _)

/-- A frame is offered only on a link that is up, and it is the chosen one. -/
theorem chooses_of_call (run : Run c s.device s.env.trace.bare) {now : Nat}
    (call : (s.tick now).env.trace.calls = .transferred frame accepted :: s.env.trace.calls) :
    ∃ mode out, (s.prepare now).device.link = .active mode ∧ (s.prepare now).device.Chooses out ∧
      frame = out.frame.encode := by
  obtain ⟨later, -, acts⟩ := acts_of_call run call
  generalize (s.tick now).device = u at acts
  cases acts with
  | launch link settled chosen => exact ⟨_, _, link, chosen, rfl⟩
  | busy link settled chosen => exact ⟨_, _, link, chosen, rfl⟩

/-- A tick that has made a call has made it last. -/
theorem last_call (run : Run c s.device s.env.trace.bare) (now : Nat)
    (more : s.env.trace.calls.length < (s.tick now).env.trace.calls.length) :
    ∃ call, (s.tick now).env.trace.calls = call :: s.env.trace.calls := by
  have calls := (s.works_tick now).calls (s.quiet_prepare now) (run_prepare run now)
  rw [calls_prepare run now] at calls
  rcases calls with same | ⟨call, -, one⟩
  · rw [same] at more
    exact absurd more (Nat.lt_irrefl _)
  · exact ⟨call, one⟩

theorem exists_call (run : Run c s.device s.env.trace.bare) (now : Nat) (frame : Octets)
    (more : s.env.trace.calls.length < (s.tick now).env.trace.calls.length)
    (last : (s.tick now).env.trace.calls.head?.bind Event.offered? = some frame) :
    ∃ accepted,
      (s.tick now).env.trace.calls = .transferred frame accepted :: s.env.trace.calls := by
  obtain ⟨call, one⟩ := last_call run now more
  rw [one] at last ⊢
  cases call with
  | transferred other accepted =>
    obtain rfl := Option.some.inj last
    exact ⟨accepted, rfl⟩
  | _ => cases last

theorem eq_of_last_call (run : Run c s.device s.env.trace.bare) (now : Nat) {call : Event}
    {x : (Mode ⊕ Octets) × Bool}
    (more : s.env.trace.calls.length < (s.tick now).env.trace.calls.length)
    (last : (s.tick now).env.trace.calls.head?.bind Event.call? = some x)
    (same : call.call? = some x) : (s.tick now).env.trace.calls = call :: s.env.trace.calls := by
  obtain ⟨made, one⟩ := last_call run now more
  rw [one] at last ⊢
  exact congrArg (· :: s.env.trace.calls) (Event.eq_of_call? last same)

end Session

end Sdci
