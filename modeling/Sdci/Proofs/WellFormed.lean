import Sdci.Proofs.Codec.Device
import Sdci.Proofs.Codec.Parameters
import Sdci.Proofs.Conversation
import Sdci.Proofs.Handing
import Sdci.Proofs.ImageBounds

/-! # Frames on the wire are well-formed

A frame is made of input data, of an event code, of the answer to an access or of parameters. Each
of these is held to its form where it comes in, and stays so until it is sent, so the master can
read every frame that the transceiver is offered.

* `DeviceFrame.Proper`: the frames that a master expects.
* `Trace.inputMaximum`: the most input data after a history.
* `Device.Lawful`: the communication parameters of a device, and those it is asked to store, are
  valid.
* `Session.Reach.frames_well_formed`: every frame of every run.
-/

namespace Sdci
set_option autoImplicit false

/-! ## Parameters -/

theorem Config.check_parameters {c : Config} (valid : c.check = .ok ()) :
    c.ident.check = .ok () ∧ c.com.check = .ok () := by
  unfold check at valid
  by_cases times : c.modeSwitchTimeout = 0 ∨ c.transferTimeout = 0
  · rw [if_pos times] at valid
    cases valid
  rw [if_neg times] at valid
  by_cases sizes : [c.maxCom1, c.maxCom2, c.maxCom3].any (maxImage < ·.toNat)
  · rw [if_pos sizes] at valid
    cases valid
  rw [if_neg sizes] at valid
  cases ident : c.ident.check with
  | error cause =>
    rw [ident] at valid
    cases valid
  | ok =>
    rw [ident] at valid
    exact ⟨rfl, valid⟩

/-! ## Frames -/

/-- The frames that a master expects, when input data may have `maximum` octets. Requests about the
mode and input updates are not services that travel. -/
inductive DeviceFrame.Proper (maximum : Nat) : DeviceFrame → Prop
  | processData (valid : Bool) {data : Octets} (fits : data.length ≤ maximum)
      (most : maximum ≤ 32) : Proper maximum (.processData valid data)
  | event {payload : Octets} (length : payload.length = 2) :
      Proper maximum (.service .event payload)
  | access {payload : Octets} (least : 4 ≤ payload.length) (most : payload.length ≤ 36) :
      Proper maximum (.service .access payload)
  | ident {kind : Service} {payload : Octets} (about : kind = .setIdent ∨ kind = .getIdent)
      (length : payload.length = 7) (readable : ∃ i, Ident.decode payload = .ok i) :
      Proper maximum (.service kind payload)
  | com {kind : Service} {payload : Octets} (about : kind = .setCom ∨ kind = .getCom)
      (length : payload.length = 6) (readable : ∃ c, Com.decode payload = .ok c) :
      Proper maximum (.service kind payload)

theorem Event.length_octets_le (e : Event) : e.octets.length ≤ 36 := by
  unfold octets
  split
  · split
    · simp
      omega
    · simp
  all_goals simp

theorem Answer.length_encode (a : Answer) : a.encode.length = a.value.length + 4 := by
  simp [encode]
  omega

/-- The mode that an event confirms. -/
def Event.confirmedMode? : Event → Option Mode
  | linkEvent _ (.modeConfirmed mode) => some mode
  | _ => none

theorem Event.confirmedMode?_eq_none {e : Event} (silent : e.confirmsMode = false) :
    e.confirmedMode? = none := by
  unfold confirmedMode?
  split
  · cases silent
  · rfl

namespace Trace

/-- The most input data that a link may carry: what the configuration and the communication
parameters allowed when a mode was last confirmed, and nothing before that. -/
def inputMaximum (c : Config) : Trace → Nat
  | [] => 0
  | e :: t => e.confirmedMode?.elim (inputMaximum c t) fun mode => c.inputLimit mode (com c.com t)

variable {c : Config}

theorem inputMaximum_append {es : Trace} (still : es.Lacks Event.confirmsMode) (t : Trace) :
    inputMaximum c (es ++ t) = inputMaximum c t := by
  induction es with
  | nil => rfl
  | cons e es ih =>
    obtain ⟨first, rest⟩ := lacks_cons.1 still
    rw [List.cons_append, inputMaximum, Event.confirmedMode?_eq_none first]
    exact ih rest

theorem inputMaximum_bare (t : Trace) : inputMaximum c (bare t) = inputMaximum c t := by
  induction t with
  | nil => rfl
  | cons e t ih =>
    cases remark : e.isRemark with
    | true =>
      have none : e.confirmedMode? = none :=
        Event.confirmedMode?_eq_none (by cases e <;> first | rfl | cases remark)
      rw [bare_cons_remark remark, inputMaximum, none]
      exact ih
    | false => rw [bare_cons remark, inputMaximum, inputMaximum, ih, com_bare]

end Trace

open Trace

namespace Device

/-! ## The maximum of the input image -/

theorem Move.inputMaximum {p : Phase} {d u : Device} {es t : Trace} (h : Move p d es u)
    (governed : d.Governed t)
    (before : d.images.input.maxLength = t.inputMaximum d.config) :
    u.images.input.maxLength = Trace.inputMaximum u.config (es ++ t) := by
  rw [h.config_eq]
  have still (lacks : es.Lacks Event.confirmsMode)
      (same : u.images.input.maxLength = d.images.input.maxLength) :
      u.images.input.maxLength = Trace.inputMaximum d.config (es ++ t) := by
    rw [inputMaximum_append lacks, same, before]
  cases h with
  | establish link requested lost done =>
    rename_i mode es₁ es₂
    rw [List.append_assoc,
      inputMaximum_append (done.upcalls.append lost.upcalls).unconfirming]
    change d.config.inputLimit mode d.store.com = d.config.inputLimit mode (t.com d.config.com)
    rw [governed.stored]
  | exchange link decode fits settles delivers signals serves =>
    rename_i v mode frame master i₁ i₂ slots es₁ es₂ es₃ es₄
    refine still (unconfirming_exchange settles delivers signals serves) ?_
    change i₂.input.maxLength = _
    rw [input_of_signals signals, input_of_delivers delivers, maxLength_of_settles settles]
    rfl
  | retry link mishap => exact still (by cases mishap <;> simp) rfl
  | exhaust link mishap left failed =>
    exact still (by cases mishap <;> simp [failed.upcalls.unconfirming]) rfl
  | fault fatal failed => exact still (by cases fatal <;> simp [failed.upcalls.unconfirming]) rfl
  | switch quiet idle pending failed => exact still (by simp [failed.upcalls.unconfirming]) rfl
  | refuseMode a quiet idle pending failed =>
    exact still (by simp [failed.upcalls.unconfirming]) rfl
  | _ => exact still (by simp) rfl

theorem Run.inputMaximum {c : Config} {d : Device} {t : Trace} (h : Run c d t) :
    d.images.input.maxLength = t.inputMaximum d.config := by
  induction h with
  | start => rfl
  | move before last ih => exact last.inputMaximum before.governed ih

/-! ## Valid parameters -/

/-- The communication parameters of the device are valid, and so are those it is to store. -/
structure Lawful (d : Device) : Prop where
  stored : d.store.com.check = .ok ()
  asked : ∀ com, d.slots.request? .setCom = some ⟨.setCom, com⟩ → com.check = .ok ()

/-- A request is not opened with parameters that are not valid. -/
theorem check_of_admits {d : Device} {r : Request} (h : d.admits r = .ok ()) :
    Store.check r = .ok () := by
  obtain ⟨kind, content⟩ := r
  cases kind with
  | setIdent | setCom =>
    unfold admits at h
    split at h
    · cases h
    · dsimp only at h
      split at h
      · cases h
      · exact h
  | _ => rfl

theorem Lawful.complete {d : Device} (h : d.Lawful) {r : Request}
    (ticket : d.slots.request? r.kind = some r) : (d.store.complete r).2.com.check = .ok () := by
  obtain ⟨kind, content⟩ := r
  cases kind with
  | setCom => exact h.asked content ticket
  | _ => exact h.stored

theorem Lawful.serve {d : Device} (h : d.Lawful) {r : Request}
    (ticket : d.slots.request? r.kind = some r) : (d.store.serve r).2.com.check = .ok () := by
  unfold Store.serve
  split
  · exact h.stored
  · exact h.complete ticket

theorem Lawful.completion {d : Device} (h : d.Lawful) {r : Request}
    (ticket : d.slots.request? r.kind = some r) :
    (d.completion r).2.store.com.check = .ok () := by
  obtain ⟨kind, content⟩ := r
  cases kind with
  | input =>
    cases image : d.images.input.store content with
    | ok input =>
      rw [completion_input_ok image]
      exact h.stored
    | error cause =>
      rw [completion_input_error image]
      exact h.stored
  | setCom => exact h.asked content ticket
  | _ => exact h.stored

theorem Move.lawful {p : Phase} {d u : Device} {es : Trace} (h : Move p d es u)
    (before : d.Lawful) : u.Lawful := by
  have move := h
  have keeps (stored : u.store.com.check = .ok ()) (later : p ≠ .call) : u.Lawful :=
    ⟨stored, fun com isOpen => before.asked com
      ((move.request?_of_open isOpen nofun).resolve_right fun called => later called.1)⟩
  cases h with
  | grant own granted =>
    refine ⟨before.stored, fun com isOpen => ?_⟩
    rcases move.request?_of_open isOpen nofun with still | ⟨-, same⟩
    · exact before.asked com still
    · cases same
      exact check_of_admits granted
  | refuse => exact before
  | clock => exact ⟨before.stored, before.asked⟩
  | exchange link decode fits settles delivers signals serves =>
    rename_i v mode frame master i₁ i₂ slots es₁ es₂ es₃ es₄
    have succeeded : (d.succeeded mode master.output).Lawful := ⟨before.stored, before.asked⟩
    refine keeps ?_ nofun
    cases settles with
    | cyclic => exact before.stored
    | stray => exact before.stored
    | carried a rides ticket =>
      obtain rfl := Slots.kind_of_request? ticket
      exact succeeded.completion ticket
  | serve a unhurried link next =>
    exact keeps (before.serve (Slots.request?_of_nextOutOfCycle next).2) nofun
  | retry link mishap => exact keeps before.stored (by cases mishap <;> nofun)
  | exhaust link mishap => exact keeps before.stored (by cases mishap <;> nofun)
  | fault fatal => exact keeps before.stored (by cases fatal <;> nofun)
  | _ => exact keeps before.stored nofun

theorem Run.lawful {c : Config} {d : Device} {t : Trace} (h : Run c d t)
    (valid : c.check = .ok ()) : d.Lawful := by
  induction h with
  | start => exact ⟨(Config.check_parameters valid).2, nofun⟩
  | move before last ih => exact last.lawful ih

/-! ## Proper frames -/

theorem Converses.length_encode {d : Device} {t : Trace} (h : d.Converses t) {answer : Answer}
    (ticket : d.slots.request? .access = some ⟨.access, answer⟩) :
    4 ≤ answer.encode.length ∧ answer.encode.length ≤ 36 := by
  obtain ⟨other, access, same, -, octets, -⟩ := h.answer _ ticket
  cases same
  refine ⟨?_, ?_⟩
  · rw [Answer.length_encode]
    exact Nat.le_add_left ..
  · rw [octets]
    exact Event.length_octets_le access

/-- What the device makes of its data and its open requests is what a master expects. -/
theorem Lawful.proper {d : Device} {t : Trace} (h : d.Lawful) (bounded : d.images.Bounded)
    (converses : d.Converses t) {out : InFlight} (builds : d.Builds out) :
    out.frame.Proper d.images.input.maxLength := by
  cases builds with
  | cyclic => exact .processData _ bounded.input bounded.inputMaximum
  | input ticket fits => exact .processData true fits bounded.inputMaximum
  | service mem ticket =>
    rename_i request
    obtain ⟨kind, content⟩ := request
    cases kind with
    | event => exact .event rfl
    | access =>
      obtain ⟨least, most⟩ := converses.length_encode ticket
      exact .access least most
    | setIdent => exact .ident (.inl rfl) rfl ⟨_, rfl⟩
    | getIdent => exact .ident (.inr rfl) rfl ⟨_, rfl⟩
    | setCom => exact .com (.inl rfl) rfl ⟨_, Com.decode_encode (h.asked _ ticket)⟩
    | getCom => exact .com (.inr rfl) rfl ⟨_, Com.decode_encode h.stored⟩
    | _ => contradiction

end Device

namespace Session

open Device

variable {σ : Type} [Transceiver σ] [Application σ] {s : Session σ}

/-- In every run each frame that the transceiver is offered, accepted or not, can be read as what it
was written from, and is a proper one: it carries no more input data than the input image may hold
at that moment. -/
theorem Reach.frames_well_formed (h : Reach s) :
    s.device.images.input.maxLength = s.env.trace.inputMaximum s.device.config ∧
    ∀ (before : Trace) frame accepted, .transferred frame accepted :: before <:+ s.env.trace →
      ∃ x, DeviceFrame.decode frame = .ok x ∧ x.encode = frame ∧
        x.Proper (before.inputMaximum s.device.config) := by
  obtain ⟨c, check, run⟩ := h.run
  refine ⟨?_, fun before frame accepted offer => ?_⟩
  · rw [← inputMaximum_bare]
    exact run.inputMaximum
  · have bare : .transferred frame accepted :: before.bare <:+ s.env.trace.bare := by
      have kept : (Event.transferred frame accepted).isRemark = false := rfl
      rw [← bare_cons kept]
      exact offer.filter _
    obtain ⟨v, out, run', chosen, rfl⟩ := run.chooses_of_offer bare
    have config : v.config = s.device.config := run'.config_eq.trans run.config_eq.symm
    refine ⟨out.frame, DeviceFrame.decode_encode _, rfl, ?_⟩
    rw [← inputMaximum_bare, ← config, ← run'.inputMaximum]
    exact (run'.lawful check).proper run'.limited.bounded run'.converses
      (run'.builds_of_chosen chosen)

/-- A frame with the identification of the device. -/
theorem frames_well_formed_asked :
    let frame := (DeviceFrame.service .getIdent [0, 0, 0, 0, 0, 0, 0]).encode
    Reach Bench.asked ∧ Bench.asked.device.images.input.maxLength = 4 ∧
      ∃ (before : Trace) (accepted : Bool),
        .transferred frame accepted :: before <:+ Bench.asked.env.trace ∧
          ∃ x, DeviceFrame.decode frame = .ok x ∧ x.encode = frame ∧
            x.Proper (before.inputMaximum Bench.asked.device.config) := by
  intro frame
  have reach := Bench.reach_asked
  have limit : Bench.asked.env.trace.inputMaximum Bench.asked.device.config = 4 := by
    decide +kernel
  have last : Bench.asked.env.trace.findSome? Event.offered? = some frame := by decide +kernel
  obtain ⟨later, e, before, whole, offer, -⟩ := List.findSome?_eq_some_iff.1 last
  obtain ⟨maximum, proper⟩ := reach.frames_well_formed
  cases e with
  | transferred other accepted =>
    obtain rfl := Option.some.inj offer
    have offered : .transferred frame accepted :: before <:+ Bench.asked.env.trace :=
      ⟨later, whole.symm⟩
    exact ⟨reach, maximum.trans limit, before, accepted, offered,
      proper before frame accepted offered⟩
  | _ => cases offer

end Session

end Sdci
