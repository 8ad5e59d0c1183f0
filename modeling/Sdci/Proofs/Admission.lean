import Mathlib.Logic.Relation
import Sdci.Proofs.Negotiation
import Sdci.Proofs.Success

/-! # Which input data are admitted

A request for new input data is checked against the communication parameters of the moment, the
frame that would carry them against the limit that was installed with the link. The two are the same
as long as the parameters are those that the link was made with.

* `Device.inputMaximum`: the most input data on the link that a request made now will travel on.
* `Device.Holds`: what keeps that maximum until a mode switch starts.
* `Device.Move.spares`: an input update that fits is not dropped by the dispatch work.
* `Session.Reach.input_admission`: when admission and link agree, and what becomes of an update.
-/

namespace Sdci
set_option autoImplicit false

namespace Device

/-- A link that is being made will have the limits that its confirmation installs. -/
def inputMaximum (d : Device) : Nat :=
  match d.link with
  | .switching target => (d.limits target).1
  | _ => d.images.input.maxLength

end Device

namespace Event

def beginsSwitch : Event → Bool
  | linkEvent _ (.modeSetAccepted _) => true
  | _ => false

/-- An input update fails because it is too long. -/
def dropsInput : Event → Bool
  | confirmed kind (.error cause) _ => kind == .input && cause == .overflow
  | _ => false

theorem dropsInput_eq_false {kind : Service} (other : kind ≠ .input) (outcome : Outcome)
    (a : Bool) : (confirmed kind outcome a).dropsInput = false := by
  cases outcome <;> simp [dropsInput, other]

end Event

namespace Trace

/-- How many mode switches have started. -/
def switches (t : Trace) : Nat := t.countP Event.beginsSwitch

/-- How many input updates were too long. -/
def drops (t : Trace) : Nat := t.countP Event.dropsInput

theorem switches_append (es t : Trace) : switches (es ++ t) = switches es + switches t :=
  List.countP_append

theorem drops_append (es t : Trace) : drops (es ++ t) = drops es + drops t := List.countP_append

theorem switches_bare (t : Trace) : switches (bare t) = switches t :=
  countP_bare (fun e remark => by cases e <;> first | rfl | cases remark) t

theorem drops_bare (t : Trace) : drops (bare t) = drops t :=
  countP_bare (fun e remark => by cases e <;> first | rfl | cases remark) t

end Trace

namespace Device

/-! ## The maximum of a link -/

/-- The link holds to a maximum of input data, or will once it is made. -/
structure Holds (n : Nat) (d : Device) : Prop where
  ahead : ∀ target, d.link = .switching target → target.active = true → (d.limits target).1 = n
  installed : ∀ mode, d.link.mode? = some mode → d.images.input.maxLength = n

theorem holds_inputMaximum (d : Device) : d.Holds d.inputMaximum := by
  constructor
  · intro target link _
    rw [inputMaximum, link]
  · intro mode link
    unfold inputMaximum
    split
    · rename_i target switching
      rw [switching] at link
      cases link
    · rfl

/-- Only a mode switch makes a link with another maximum. -/
theorem Move.holds {n : Nat} {p : Phase} {d u : Device} {es : Trace} (h : Move p d es u)
    (before : d.Holds n) : u.Holds n ∨ p = .work ∧ ∃ e ∈ es, e.beginsSwitch = true := by
  cases h with
  | switch => exact .inr ⟨rfl, _, List.mem_cons_self, rfl⟩
  | establish link requested lost done =>
    rename_i mode es₁ es₂
    left
    have target := before.ahead mode link
    cases active : mode.active with
    | true =>
      have up : (d.established mode).link = .active mode := if_pos active
      refine ⟨fun other switching => ?_, fun _ _ => target active⟩
      rw [up] at switching
      cases switching
    | false =>
      have down : (d.established mode).link = .inactive := if_neg (by simp [active])
      constructor <;> rw [down] <;> nofun
  | exchange link decode fits settles delivers signals serves =>
    rename_i v mode frame master i₁ i₂ slots es₁ es₂ es₃ es₄
    left
    have active : v.link = .active mode := by
      rw [settles.eq]
      rfl
    refine ⟨fun target switching => ?_, fun other up => ?_⟩
    · cases active.symm.trans switching
    · change i₂.input.maxLength = n
      rw [input_of_signals signals, input_of_delivers delivers, maxLength_of_settles settles]
      exact before.installed mode (by rw [link]; rfl)
  | retry link => exact .inl ⟨nofun, fun _ _ => before.installed _ (by rw [link]; rfl)⟩
  | launch unhurried link => exact .inl ⟨nofun, fun _ _ => before.installed _ (by rw [link]; rfl)⟩
  | exhaust => exact .inl ⟨nofun, nofun⟩
  | fault => exact .inl ⟨nofun, nofun⟩
  | serve acknowledged unhurried link =>
    left
    constructor <;> (dsimp only; rw [link]; nofun)
  | _ => exact .inl ⟨before.ahead, before.installed⟩

theorem Moves.holds {n : Nat} {p : Phase} {d u : Device} {es : Trace} (h : Moves p d es u)
    (before : d.Holds n) (still : p = .work → Trace.switches es = 0) : u.Holds n := by
  induction h with
  | refl => exact before
  | tail earlier last ih =>
    rename_i v w es fs
    simp only [Trace.switches_append, Nat.add_eq_zero_iff] at still
    rcases last.holds (ih fun work => (still work).2) with held | ⟨work, e, mem, switches⟩
    · exact held
    · have none := List.countP_eq_zero.1 (still work).1 e mem
      exact absurd switches none

/-! ## The dispatch work -/

/-- Input data that wait for the next exchange are not too long for it. -/
def Fits (d : Device) : Prop :=
  ∀ mode data, d.link = .active mode → d.slots.request? .input = some ⟨.input, data⟩ →
    data.length ≤ d.images.input.maxLength

theorem long_of_tooLong {d : Device} {length : Nat} {cause : Failure}
    (h : d.choose = .tooLong length cause) :
    ∃ data, d.slots.request? .input = some ⟨.input, data⟩ ∧
      d.images.input.maxLength < data.length := by
  unfold choose at h
  split at h
  · cases h
  · split at h
    · rename_i ticket pending
      refine ⟨ticket.payload, Slots.request?_of_pending pending, ?_⟩
      split at h
      · cases h
      · rename_i refused
        unfold Image.check at refused
        split at refused
        · assumption
        · cases refused
    · split at h <;> cases h

theorem Move.spares {d u : Device} {es : Trace} (h : Move .work d es u) (fits : d.Fits) :
    (∀ e ∈ es, e.dropsInput = false) ∧ u.Fits := by
  have rest (still : ∀ mode, u.link = .active mode →
      d.link = .active mode ∧ u.images.input.maxLength = d.images.input.maxLength) : u.Fits := by
    intro mode data link isOpen
    obtain ⟨same, size⟩ := still mode link
    rcases h.request?_of_open isOpen nofun with before | ⟨call, -⟩
    · rw [size]
      exact fits mode data same before
    · cases call
  have notReady {ks : List Service} {es : Trace} (lost : Confirms (.error .notReady) ks es) :
      ∀ e ∈ es, e.dropsInput = false := by
    intro e mem
    obtain ⟨kind, _, rfl⟩ := lost.mem mem
    simp [Event.dropsInput]
  cases h with
  | retry link mishap => cases mishap
  | exhaust link mishap => cases mishap
  | fault fatal => cases fatal
  | answerMode => exact ⟨by simp [Event.dropsInput], rest fun _ link => ⟨link, rfl⟩⟩
  | switch quiet idle pending lost =>
    exact ⟨by simpa [Event.dropsInput] using notReady lost, rest nofun⟩
  | refuseMode acknowledged quiet idle pending lost =>
    exact ⟨by simpa [Event.dropsInput] using notReady lost, rest fun _ link => ⟨link, rfl⟩⟩
  | serve acknowledged unhurried link next =>
    rename_i request
    have other : request.kind ≠ .input := by
      intro same
      have mem := (Slots.request?_of_nextOutOfCycle next).1
      rw [same] at mem
      revert mem
      decide
    refine ⟨?_, rest fun _ link => ⟨link, rfl⟩⟩
    intro e mem
    obtain rfl := List.mem_singleton.1 mem
    exact Event.dropsInput_eq_false other _ acknowledged
  | drop acknowledged unhurried link long =>
    obtain ⟨data, isOpen, beyond⟩ := long_of_tooLong long
    exact absurd (fits _ data link isOpen) (Nat.not_le.2 beyond)
  | launch => exact ⟨by simp [Event.dropsInput], rest nofun⟩
  | busy => exact ⟨by simp [Event.dropsInput], rest fun _ link => ⟨link, rfl⟩⟩

theorem Moves.spares {d u : Device} {es : Trace} (h : Moves .work d es u) (fits : d.Fits) :
    Trace.drops es = 0 := by
  suffices (∀ e ∈ es, e.dropsInput = false) ∧ u.Fits from
    List.countP_eq_zero.2 fun e mem => by simp [this.1 e mem]
  induction h with
  | refl => exact ⟨List.forall_mem_nil _, fits⟩
  | tail before last ih =>
    obtain ⟨kept, still⟩ := ih
    obtain ⟨more, again⟩ := last.spares still
    exact ⟨List.forall_mem_append.2 ⟨more, kept⟩, again⟩

/-- Requests come from the host alone. -/
theorem Moves.request?_of_open {p : Phase} {d u : Device} {es : Trace} {k : Service} {r : Request}
    (h : Moves p d es u) (isOpen : u.slots.request? k = some r) (own : k ≠ .access)
    (other : p ≠ .call) : d.slots.request? k = some r := by
  induction h with
  | refl => exact isOpen
  | tail before last ih =>
    rcases last.request?_of_open isOpen own with still | ⟨call, -⟩
    · exact ih still
    · exact absurd call other

end Device

namespace Session

open Device Trace

variable {σ : Type} {s t : Session σ} {n : Nat}

/-! ## Phases -/

theorem switches_le (h : s.env.trace.bare <:+ t.env.trace.bare) :
    s.env.trace.switches ≤ t.env.trace.switches := by
  rw [← switches_bare s.env.trace, ← switches_bare t.env.trace]
  exact h.sublist.countP_le

theorem Performs.holds {p : Phase} (h : Performs p s t) (before : s.device.Holds n)
    (still : p = .work → t.env.trace.switches = s.env.trace.switches) : t.device.Holds n := by
  obtain ⟨es, trace, moves⟩ := h
  refine moves.holds before fun work => ?_
  have count := congrArg switches trace
  rw [switches_append, switches_bare, switches_bare, still work] at count
  omega

section Ticking

variable [Transceiver σ] [Application σ]

/-- A tick up to its dispatch work. -/
def attend (s : Session σ) (now : Nat) : Session σ :=
  ((s.enterTick now).poll now).expireTimers now

theorem suffix_attend (s : Session σ) (now : Nat) :
    s.env.trace.bare <:+ (s.attend now).env.trace.bare := by
  obtain ⟨entered, polled, expired, -⟩ := s.performs_tick now
  exact entered.performs.suffix.trans (polled.performs.suffix.trans expired.suffix)

theorem holds_attend (before : s.device.Holds n) (now : Nat) : (s.attend now).device.Holds n := by
  obtain ⟨entered, polled, expired, -⟩ := s.performs_tick now
  have entered := entered.performs.holds before nofun
  exact expired.holds (polled.performs.holds entered nofun) nofun

theorem request?_of_attend {k : Service} {r : Request} {now : Nat}
    (isOpen : (s.attend now).device.slots.request? k = some r) (own : k ≠ .access) :
    s.device.slots.request? k = some r := by
  obtain ⟨-, polled, ⟨es, -, expired⟩, -⟩ := s.performs_tick now
  obtain ⟨fs, -, polled⟩ := polled.performs
  exact polled.request?_of_open (expired.request?_of_open isOpen own nofun) own nofun

theorem drops_tick {now : Nat} (fits : (s.attend now).device.Fits) :
    (s.tick now).env.trace.drops = (s.attend now).env.trace.drops := by
  obtain ⟨-, -, -, es, trace, worked⟩ := s.performs_tick now
  have count := congrArg drops trace
  rw [drops_append, drops_bare, drops_bare, worked.spares fits, Nat.zero_add] at count
  exact count

/-! ## Steps -/

theorem Step.holds (h : Step s t) (before : s.device.Holds n)
    (still : t.env.trace.switches = s.env.trace.switches) : t.device.Holds n := by
  cases h with
  | tick now =>
    obtain ⟨-, -, -, worked⟩ := s.performs_tick now
    have earlier := switches_le (s.suffix_attend now)
    have later := switches_le worked.suffix
    refine worked.holds (holds_attend before now) fun _ => ?_
    change _ = (s.attend now).env.trace.switches
    change (s.attend now).env.trace.switches ≤ _ at later
    omega
  | submit r own => exact (s.makes_submit own).performs.holds before nofun
  | mapHost f => exact before

theorem switches_le_of_steps (h : Relation.ReflTransGen Step s t) :
    s.env.trace.switches ≤ t.env.trace.switches := by
  induction h with
  | refl => exact Nat.le_refl _
  | tail earlier next ih => exact Nat.le_trans ih (switches_le next.suffix)

theorem holds_of_steps (h : Relation.ReflTransGen Step s t) (before : s.device.Holds n)
    (still : t.env.trace.switches = s.env.trace.switches) : t.device.Holds n := by
  induction h with
  | refl => exact before
  | tail earlier next ih =>
    have first := switches_le_of_steps earlier
    have last := switches_le next.suffix
    exact next.holds (ih (by omega)) (by omega)

end Ticking

/-! ## Admission -/

/-- The communication parameters of now allow as much input data on the link as those that it was
made with. -/
def Agrees (s : Session σ) : Prop :=
  ∀ mode, s.device.link.mode? = some mode →
    s.device.config.inputLimit mode (s.env.trace.com s.device.config.com) =
      s.device.config.inputLimit mode (s.env.trace.negotiated s.device.config.com)

theorem eq_iff_forall_length {m n : Nat} :
    m = n ↔ ∀ data : Octets, m < data.length ↔ n < data.length := by
  refine ⟨fun same _ => by rw [same], fun same => ?_⟩
  have at_m := same (List.replicate m 0)
  have at_n := same (List.replicate n 0)
  rw [List.length_replicate] at at_m at_n
  omega

variable [Application σ]

theorem setInput_eq (available : s.device.link.available = true)
    (free : s.device.slots.isOpen .input = false) (data : Octets) :
    (s.setInput data).1 =
      if (s.device.limits s.device.link.effectiveMode).1 < data.length then .error .overflow
      else .ok () := by
  change s.device.admits ⟨.input, data⟩ = _
  rw [admits, if_neg (by rw [free]; decide), available]
  rfl

variable [Transceiver σ]

theorem agrees_of_up (h : Reach s) {mode : Mode} (up : s.device.link.mode? = some mode) :
    (s.device.limits mode).1 = s.device.images.input.maxLength ↔ s.Agrees := by
  obtain ⟨c, -, run⟩ := h.run
  obtain ⟨stored, -, installed⟩ := run.governed
  rw [com_bare] at stored
  have now : (s.device.limits mode).1 =
      s.device.config.inputLimit mode (s.env.trace.com s.device.config.com) := by
    rw [← stored]
    rfl
  rw [now, installed mode up, negotiated_bare]
  refine ⟨fun same other also => ?_, fun agrees => agrees mode up⟩
  obtain rfl := Option.some.inj (up.symm.trans also)
  exact same

/-- The limit of admission and the limit of the link. -/
theorem Reach.limit_eq_iff (h : Reach s) (available : s.device.link.available = true) :
    (s.device.limits s.device.link.effectiveMode).1 = s.device.inputMaximum ↔ s.Agrees := by
  cases link : s.device.link with
  | inactive | fault =>
    rw [link] at available
    cases available
  | switching target =>
    have same : s.device.inputMaximum = (s.device.limits target).1 := by rw [inputMaximum, link]
    refine ⟨fun _ mode up => ?_, fun _ => same.symm⟩
    rw [link] at up
    cases up
  | active mode | transferring mode =>
    have same : s.device.inputMaximum = s.device.images.input.maxLength := by
      rw [inputMaximum, link]
    rw [same]
    exact agrees_of_up h (by rw [link]; rfl)

/-- Where a link is there or being made, and no input update is open, exactly the input data that
are too long for the link are refused as too long, if and only if the communication parameters of
now allow as much input data as those that the link was made with. As long as no mode switch starts
the maximum stays, and an admitted update that keeps to it, as all do in case of agreement, is never
dropped by the dispatch work. -/
theorem Reach.input_admission (h : Reach s) (available : s.device.link.available = true)
    (free : s.device.slots.isOpen .input = false) :
    ((∀ data, (s.setInput data).1 = .error .overflow ↔ s.device.inputMaximum < data.length) ↔
      s.Agrees) ∧
    ∀ data t, (s.setInput data).1 = .ok () → Relation.ReflTransGen Step (s.setInput data).2 t →
      t.env.trace.switches = s.env.trace.switches →
      (∀ mode, t.device.link.mode? = some mode →
        t.device.images.input.maxLength = s.device.inputMaximum) ∧
      (s.Agrees ∨ data.length ≤ s.device.inputMaximum →
        t.device.slots.request? .input = some ⟨.input, data⟩ →
        ∀ now, (t.tick now).env.trace.drops = (t.attend now).env.trace.drops) := by
  have limit := h.limit_eq_iff available
  have refused (data : Octets) : (s.setInput data).1 = .error .overflow ↔
      (s.device.limits s.device.link.effectiveMode).1 < data.length := by
    rw [setInput_eq available free]
    split <;> simp_all
  refine ⟨?_, fun data t accepted later still => ?_⟩
  · rw [← limit, eq_iff_forall_length]
    exact forall_congr' fun data => by rw [refused]
  · have steps : Relation.ReflTransGen Step s t := .head (.submit s ⟨.input, data⟩ nofun) later
    have held := holds_of_steps steps s.device.holds_inputMaximum still
    refine ⟨held.installed, fun fits isOpen now => drops_tick fun mode other link waits => ?_⟩
    have fits : data.length ≤ s.device.inputMaximum := by
      rcases fits with agrees | fits
      · rw [← limit.2 agrees]
        refine Nat.not_lt.1 fun long => ?_
        rw [(refused data).2 long] at accepted
        cases accepted
      · exact fits
    have installed := (holds_attend held now).installed mode (by rw [link]; rfl)
    have same := isOpen.symm.trans (request?_of_attend waits nofun)
    cases same
    rw [installed]
    exact fits

theorem input_admission_linked :
    Reach Bench.linked ∧ Bench.linked.device.link.available = true ∧
      Bench.linked.device.slots.isOpen .input = false ∧
      Bench.linked.device.inputMaximum = 4 ∧
      (Bench.linked.setInput [1, 2, 3, 4, 5]).1 = .error .overflow := by
  have reach := Bench.reach_linked
  have link : Bench.linked.device.link = .transferring .com1 := by decide +kernel
  have available : Bench.linked.device.link.available = true := by rw [link]; rfl
  have free : Bench.linked.device.slots.isOpen .input = false := by decide +kernel
  have maximum : Bench.linked.device.inputMaximum = 4 := by decide +kernel
  have agrees : Bench.linked.Agrees := by
    intro mode up
    rw [link] at up
    cases up
    decide +kernel
  obtain ⟨agreement, -⟩ := reach.input_admission available free
  have long : Bench.linked.device.inputMaximum < [1, 2, 3, 4, 5].length := by
    rw [maximum]
    decide
  exact ⟨reach, available, free, maximum, (agreement.2 agrees [1, 2, 3, 4, 5]).2 long⟩

end Session

/-! ## New communication parameters on an old link -/

namespace Bench

open Session

/-- A device whose master has been told of eight octets of input data over a link that was made with
four. -/
def widened : Session Bench := ((linked.setCom { inputLength := 8 }).2.tick 3000).tick 4000

theorem reach_widened : Reach widened :=
  ((reach_linked.submit ⟨.setCom, { inputLength := 8 }⟩ nofun).tick 3000).tick 4000

/-- Six octets are admitted there, and the next tick drops them because they are too long. -/
theorem wide_input_admitted :
    let data : Octets := List.replicate 6 0
    let admitted := (widened.setInput data).2
    Reach widened ∧ widened.device.link.available = true ∧
      widened.device.slots.isOpen .input = false ∧
      widened.device.inputMaximum < data.length ∧ (widened.setInput data).1 = .ok () ∧
      (admitted.tick 5000).env.trace.switches = widened.env.trace.switches ∧
      (admitted.tick 5000).env.trace.drops = (admitted.attend 5000).env.trace.drops + 1 := by
  intro data admitted
  have available : widened.device.link.available = true := by decide +kernel
  have free : widened.device.slots.isOpen .input = false := by decide +kernel
  have limit : ¬(widened.device.limits widened.device.link.effectiveMode).1 < data.length := by
    decide +kernel
  have accepted : (widened.setInput data).1 = .ok () := by
    rw [setInput_eq available free, if_neg limit]
  refine ⟨reach_widened, available, free, ?_, accepted, ?_, ?_⟩ <;> decide +kernel

end Bench

end Sdci
