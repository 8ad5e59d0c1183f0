import Sdci.Proofs.Codec.Parameters
import Sdci.Proofs.Negotiation
import Sdci.Proofs.Outstanding

/-! # Requests that are taken or turned down

A device decides about a request at once. One that it takes waits in its place; one that it turns
down is confirmed with the cause and leaves the device as it was.

* `Link.Has`: the mode in which frames are exchanged, or will be once a switch is confirmed.
* `Device.Grants`: what a request finds if nothing stands in its way but one of its own kind.
* `Device.Refuses`: why a request is turned down. Its kind comes first, then the link, then what the
  request carries.
* `Session.submission_settled`: what becomes of every request.
-/

namespace Sdci
set_option autoImplicit false

/-! ## What a request has to meet -/

/-- Frames are exchanged in a mode, or will be in the one that the line is being switched to. -/
inductive Link.Has : Link → Mode → Prop
  | active (mode : Mode) : Has (.active mode) mode
  | transferring (mode : Mode) : Has (.transferring mode) mode
  | switching {target : Mode} (rate : target.active = true) : Has (.switching target) target

namespace Link

theorem has_iff {l : Link} {mode : Mode} :
    l.Has mode ↔ l.available = true ∧ l.effectiveMode = mode := by
  constructor
  · intro link
    cases link with
    | active | transferring => exact ⟨rfl, rfl⟩
    | switching rate => exact ⟨rate, rfl⟩
  · rintro ⟨available, rfl⟩
    cases l with
    | active mode => exact .active mode
    | transferring mode => exact .transferring mode
    | switching target => exact .switching available
    | inactive | fault => cases available

theorem Has.available {l : Link} {mode : Mode} (link : l.Has mode) : l.available = true :=
  (has_iff.1 link).1

theorem available_eq_false_iff {l : Link} : l.available = false ↔ ∀ mode, ¬ l.Has mode := by
  constructor
  · intro away mode link
    cases link.available.symm.trans away
  · intro none
    exact Bool.eq_false_iff.2 fun available => none _ (has_iff.2 ⟨available, rfl⟩)

end Link

/-- What a request may carry: device ids have 24 bits on the wire, the fastest mode of a device is
no SIO, and no link carries more than `maxImage` octets in one direction. -/
def Request.Valid : Request → Prop
  | ⟨.setIdent, ident⟩ => ident.device ≤ Ident.maxDevice
  | ⟨.setCom, com⟩ =>
    com.fastest.active = true ∧ com.inputLength.toNat ≤ maxImage ∧
      com.outputLength.toNat ≤ maxImage
  | _ => True

namespace Store

variable {r : Request}

theorem check_of_valid (valid : r.Valid) : check r = .ok () := by
  obtain ⟨kind, content⟩ := r
  cases kind with
  | setIdent => exact (Ident.check_eq content).trans (if_pos valid)
  | setCom => exact (Com.check_eq content).trans (if_pos valid)
  | _ => rfl

theorem check_of_invalid (invalid : ¬ r.Valid) : check r = .error .badParameter := by
  obtain ⟨kind, content⟩ := r
  cases kind with
  | setIdent => exact (Ident.check_eq content).trans (if_neg invalid)
  | setCom => exact (Com.check_eq content).trans (if_neg invalid)
  | _ => exact absurd trivial invalid

end Store

/-! ## Admission -/

namespace Device

/-- What the link and the request itself must be for the request to be taken. -/
inductive Grants (d : Device) : Request → Prop
  | setMode (mode : Mode) : Grants d ⟨.setMode, mode⟩
  | getMode : Grants d ⟨.getMode, ()⟩
  | event {mode : Mode} (link : d.link.Has mode) (code : UInt16) : Grants d ⟨.event, code⟩
  | input {mode : Mode} {data : Octets} (link : d.link.Has mode)
      (fits : data.length ≤ d.config.inputLimit mode d.store.com) : Grants d ⟨.input, data⟩
  | parameter {r : Request} (about : r.kind ∈ Service.parameters) (sound : d.link ≠ .fault)
      (valid : r.Valid) : Grants d r

/-- Why a request is turned down. -/
inductive Refuses (d : Device) (r : Request) : Failure → Prop
  | busy (isOpen : d.slots.isOpen r.kind = true) : Refuses d r .notReady
  | unlinked (free : d.slots.isOpen r.kind = false) (needs : r.kind ∈ [Service.input, .event])
      (none : ∀ mode, ¬ d.link.Has mode) : Refuses d r .notReady
  | tooLong {mode : Mode} {data : Octets} (asks : r = ⟨.input, data⟩)
      (free : d.slots.isOpen .input = false) (link : d.link.Has mode)
      (long : d.config.inputLimit mode d.store.com < data.length) : Refuses d r .overflow
  | faulted (free : d.slots.isOpen r.kind = false) (about : r.kind ∈ Service.parameters)
      (fault : d.link = .fault) : Refuses d r .notReady
  | invalid (free : d.slots.isOpen r.kind = false) (about : r.kind ∈ Service.parameters)
      (sound : d.link ≠ .fault) (invalid : ¬ r.Valid) : Refuses d r .badParameter

variable {d : Device} {r : Request} {cause : Failure}

/-! Once no request of its kind is open, each sort of request has its own rule. -/

theorem admits_event (free : d.slots.isOpen .event = false) (code : UInt16) :
    d.admits ⟨.event, code⟩ = if d.link.available then .ok () else .error .notReady :=
  if_neg (Bool.eq_false_iff.1 free)

theorem admits_input (free : d.slots.isOpen .input = false) (data : Octets) :
    d.admits ⟨.input, data⟩ =
      if !d.link.available then .error .notReady
      else if d.config.inputLimit d.link.effectiveMode d.store.com < data.length then
        .error .overflow
      else .ok () :=
  if_neg (Bool.eq_false_iff.1 free)

theorem admits_parameter (free : d.slots.isOpen r.kind = false)
    (about : r.kind ∈ Service.parameters) :
    d.admits r = if d.link = .fault then .error .notReady else Store.check r := by
  obtain ⟨kind, content⟩ := r
  cases kind with
  | setIdent | getIdent | setCom | getCom => exact if_neg (Bool.eq_false_iff.1 free)
  | _ => contradiction

theorem admits_of_grants (free : d.slots.isOpen r.kind = false) (granted : d.Grants r) :
    d.admits r = .ok () := by
  cases granted with
  | setMode | getMode => exact if_neg (Bool.eq_false_iff.1 free)
  | event link code => rw [admits_event free, if_pos link.available]
  | input link fits =>
    obtain ⟨available, rfl⟩ := Link.has_iff.1 link
    rw [admits_input free, available, if_neg (by decide), if_neg (Nat.not_lt.2 fits)]
  | parameter about sound valid =>
    rw [admits_parameter free about, if_neg sound, Store.check_of_valid valid]

theorem admits_of_refuses (refused : d.Refuses r cause) : d.admits r = .error cause := by
  cases refused with
  | busy isOpen => exact if_pos isOpen
  | unlinked free needs none =>
    have away := Link.available_eq_false_iff.2 none
    obtain ⟨kind, content⟩ := r
    cases kind with
    | event => rw [admits_event free, if_neg (Bool.eq_false_iff.1 away)]
    | input => rw [admits_input free, away, if_pos (by decide)]
    | _ => contradiction
  | tooLong asks free link long =>
    obtain ⟨available, rfl⟩ := Link.has_iff.1 link
    rw [asks, admits_input free, available, if_neg (by decide), if_pos long]
  | faulted free about fault => rw [admits_parameter free about, if_pos fault]
  | invalid free about sound invalid =>
    rw [admits_parameter free about, if_neg sound, Store.check_of_invalid invalid]

theorem grants_or_refuses_parameter (free : d.slots.isOpen r.kind = false)
    (about : r.kind ∈ Service.parameters) : d.Grants r ∨ ∃ cause, d.Refuses r cause := by
  by_cases fault : d.link = .fault
  · exact .inr ⟨_, .faulted free about fault⟩
  by_cases valid : r.Valid
  · exact .inl (.parameter about fault valid)
  · exact .inr ⟨_, .invalid free about fault valid⟩

theorem grants_or_refuses (own : r.kind ≠ .access) (free : d.slots.isOpen r.kind = false) :
    d.Grants r ∨ ∃ cause, d.Refuses r cause := by
  obtain ⟨kind, content⟩ := r
  cases kind with
  | setMode => exact .inl (.setMode content)
  | getMode => exact .inl .getMode
  | event =>
    by_cases linked : ∃ mode, d.link.Has mode
    · obtain ⟨mode, link⟩ := linked
      exact .inl (.event link content)
    · exact .inr ⟨_, .unlinked free (by simp) (not_exists.1 linked)⟩
  | input =>
    by_cases linked : ∃ mode, d.link.Has mode
    · obtain ⟨mode, link⟩ := linked
      rcases Nat.lt_or_ge (d.config.inputLimit mode d.store.com) content.length with long | fits
      · exact .inr ⟨_, .tooLong rfl free link long⟩
      · exact .inl (.input link fits)
    · exact .inr ⟨_, .unlinked free (by simp) (not_exists.1 linked)⟩
  | access => exact absurd rfl own
  | setIdent | getIdent | setCom | getCom =>
    exact grants_or_refuses_parameter free (by simp [Service.parameters])

theorem admits_eq_ok_iff (own : r.kind ≠ .access) :
    d.admits r = .ok () ↔ d.slots.isOpen r.kind = false ∧ d.Grants r := by
  refine ⟨fun admitted => ?_, fun granted => admits_of_grants granted.1 granted.2⟩
  have free := isOpen_of_admits admitted
  rcases grants_or_refuses own free with granted | ⟨cause, refused⟩
  · exact ⟨free, granted⟩
  · cases admitted.symm.trans (admits_of_refuses refused)

theorem admits_eq_error_iff (own : r.kind ≠ .access) :
    d.admits r = .error cause ↔ d.Refuses r cause := by
  refine ⟨fun turned => ?_, admits_of_refuses⟩
  cases free : d.slots.isOpen r.kind with
  | true =>
    cases turned.symm.trans (admits_of_refuses (.busy free))
    exact .busy free
  | false =>
    rcases grants_or_refuses own free with granted | ⟨other, refused⟩
    · cases turned.symm.trans (admits_of_grants free granted)
    · cases turned.symm.trans (admits_of_refuses refused)
      exact refused

end Device

/-! ## Submission -/

theorem Env.host_confirm {σ : Type} [Application σ] (e : Env σ) (call : Confirmation)
    (outcome : Outcome) :
    (e.confirm call.kind outcome).host = (Application.confirm call outcome e.host).2 := by
  rw [confirm_kind]
  unfold tell
  dsimp only
  split <;> rfl

namespace Session

open Device

variable {σ : Type} [Application σ] {s : Session σ} {r : Request}

theorem submit_of_ok (granted : s.device.admits r = .ok ()) :
    s.submit r = (.ok (), (s.enter (.requested r (.ok ()))).opened r) := by
  unfold submit
  rw [granted]

theorem submit_of_error {cause : Failure} (refused : s.device.admits r = .error cause) :
    s.submit r = (.error cause, (s.enter (.requested r (.error cause))).rejected r cause) := by
  unfold submit
  rw [refused]

/-- A request of a host is taken if none of its kind is outstanding and nothing else stands in its
way. Then it fills its own place, and that is all that happens. Any other request is turned down for
the reason that `Device.Refuses` gives, which is `Failure.notReady` whenever its kind is busy: the
cause is returned and confirmed once, to the application alone, and the device stays as it was. -/
theorem submission_settled (s : Session σ) (r : Request) (own : r.kind ≠ .access) :
    ((s.submit r).1 = .ok () ↔ r.kind ∉ s.outstanding ∧ s.device.Grants r) ∧
    (∀ cause, (s.submit r).1 = .error cause ↔ s.device.Refuses r cause) ∧
    (r.kind ∈ s.outstanding → (s.submit r).1 = .error .notReady) ∧
    ((s.submit r).1 = .ok () →
      (s.submit r).2.device =
        { s.device with slots := s.device.slots.place r s.device.lastTick } ∧
      (s.submit r).2.env.host = s.env.host ∧
      (s.submit r).2.env.trace.bare = .requested r (.ok ()) :: s.env.trace.bare) ∧
    ∀ cause, (s.submit r).1 = .error cause →
      (s.submit r).2.device = s.device ∧
      (∃ call : Confirmation, call.kind = r.kind ∧
        (s.submit r).2.env.host = (Application.confirm call (.error cause) s.env.host).2) ∧
      ∃ acknowledged, (s.submit r).2.env.trace.bare =
        .confirmed r.kind (.error cause) acknowledged :: .requested r (.error cause) ::
          s.env.trace.bare := by
  have free : r.kind ∉ s.outstanding ↔ s.device.slots.isOpen r.kind = false := by
    rw [mem_outstanding, Bool.not_eq_true]
  refine ⟨?_, fun cause => admits_eq_error_iff own, fun busy => ?_, fun granted => ?_,
    fun cause refused => ?_⟩
  · rw [free]
    exact admits_eq_ok_iff own
  · exact admits_of_refuses (.busy (mem_outstanding.1 busy))
  · rw [submit_of_ok granted]
    exact ⟨rfl, rfl, (Env.bare_note rfl).trans (Env.bare_enter rfl)⟩
  · rw [submit_of_error refused]
    obtain ⟨a, confirmed⟩ := ((s.enter (.requested r (.error cause))).env.note
      (.requestRejected r.kind cause)).bare_confirm r.kind (.error cause)
    obtain ⟨call, own⟩ := r.kind.exists_confirmation
    refine ⟨rfl, ⟨call, own, ?_⟩, a, confirmed.trans ?_⟩
    · rw [rejected, ← own]
      exact Env.host_confirm ..
    · exact congrArg _ ((Env.bare_note rfl).trans (Env.bare_enter rfl))

/-- Input data that are too long as well meet an update that is still on its way. -/
theorem submission_settled_exchanging :
    let r : Request := ⟨.input, List.replicate 40 0⟩
    r.kind ≠ .access ∧ Reach Bench.exchanging ∧ r.kind ∈ Bench.exchanging.outstanding ∧
      (Bench.exchanging.submit r).1 = .error .notReady ∧
      (Bench.exchanging.submit r).2.device = Bench.exchanging.device := by
  intro r
  have own : r.kind ≠ .access := nofun
  have busy : r.kind ∈ Bench.exchanging.outstanding := by decide +kernel
  obtain ⟨-, -, refused, -, kept⟩ := submission_settled Bench.exchanging r own
  obtain ⟨device, -⟩ := kept .notReady (refused busy)
  exact ⟨own, Bench.reach_exchanging, busy, refused busy, device⟩

end Session

end Sdci
