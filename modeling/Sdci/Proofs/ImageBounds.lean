import Sdci.Proofs.Transitions

/-! # How much the images hold

A confirmed mode fixes how much process data each direction carries, and the images are cut to that.
What the application is offered, and what it had asked to send, was measured against the same limits
before, so storing it cannot fail.

* `Images.Bounded`: the images hold no more than they may.
* `Device.Limited`: the limits are those of the mode that was confirmed last.
* `Device.Move.offered`: output data that are offered fit, and what is accepted is stored.
* `Session.Reach.images_bounded`: all of it in every run.
-/

namespace Sdci
set_option autoImplicit false

/-! ## Images -/

namespace Images

structure Bounded (i : Images) : Prop where
  input : i.input.data.length ≤ i.input.maxLength
  output : i.output.data.length ≤ i.output.maxLength
  inputMaximum : i.input.maxLength ≤ maxImage
  outputMaximum : i.output.maxLength ≤ maxImage

theorem bounded_setLimits (i : Images) {input output : Nat} (hi : input ≤ maxImage)
    (ho : output ≤ maxImage) : (i.setLimits input output).Bounded :=
  ⟨List.length_take_le .., List.length_take_le .., hi, ho⟩

namespace Bounded

variable {i j : Images} {es : Trace}

theorem invalidate (h : i.Bounded) : i.invalidate.Bounded :=
  ⟨h.input, h.output, h.inputMaximum, h.outputMaximum⟩

theorem withInput (h : i.Bounded) {input : Image} (fits : input.data.length ≤ i.input.maxLength)
    (same : input.maxLength = i.input.maxLength) : { i with input }.Bounded := by
  refine ⟨?_, h.output, ?_, h.outputMaximum⟩
  · rw [same]
    exact fits
  · rw [same]
    exact h.inputMaximum

theorem delivers (h : i.Bounded) {data : Octets} (fits : data.length ≤ i.output.maxLength)
    (delivers : Delivers data i es j) : j.Bounded := by
  cases delivers with
  | applied => exact ⟨h.input, fits, h.inputMaximum, h.outputMaximum⟩
  | _ => exact ⟨h.input, h.output, h.inputMaximum, h.outputMaximum⟩

theorem signals (h : i.Bounded) {received : Option Control} (signals : Signals received i es j) :
    j.Bounded := by
  cases signals <;> exact ⟨h.input, h.output, h.inputMaximum, h.outputMaximum⟩

theorem completion {d : Device} (h : d.images.Bounded) (r : Request) :
    (d.completion r).2.images.Bounded := by
  obtain ⟨kind, content⟩ := r
  cases kind with
  | input =>
    cases stored : d.images.input.store content with
    | error cause =>
      rw [Device.completion_input_error stored]
      exact h
    | ok input =>
      rw [Device.completion_input_ok stored]
      obtain ⟨fits, rfl⟩ := Image.store_eq_ok_iff.1 stored
      exact h.withInput fits rfl
  | _ => exact h

theorem settled {d u : Device} {mode : Mode} {output : Octets} (h : d.images.Bounded)
    (settles : Settles (d.succeeded mode output) es u) : u.images.Bounded := by
  have validated : (d.succeeded mode output).images.Bounded := h.withInput h.input rfl
  cases settles with
  | cyclic => exact validated
  | stray => exact validated
  | carried => exact validated.completion _

end Bounded

end Images

/-! ## Offers -/

namespace Event

def offersOutput : Event → Bool
  | outputOffered _ _ => true
  | _ => false

/-- The output data that the application is offered, and whether it takes them. -/
def offer? : Event → Option (Octets × Bool)
  | outputOffered data accepted => some (data, accepted)
  | _ => none

end Event

namespace Trace

theorem negotiated_append (start : Com) {es : Trace} (still : es.Lacks Event.confirmsMode)
    (t : Trace) : negotiated start (es ++ t) = negotiated start t := by
  induction es with
  | nil => rfl
  | cons e es ih =>
    obtain ⟨first, rest⟩ := lacks_cons.1 still
    rw [List.cons_append, negotiated, first]
    exact ih rest

theorem Upcalls.unconfirming {es : Trace} (h : es.Upcalls) : es.Lacks Event.confirmsMode :=
  h.lacks fun e upcall => by cases e <;> first | rfl | cases upcall

end Trace

theorem Confirms.offerless {outcome : Outcome} {ks : List Service} {es : Trace}
    (h : Confirms outcome ks es) : es.Lacks Event.offersOutput := by
  intro e mem
  obtain ⟨_, _, rfl⟩ := h.mem mem
  rfl

open Trace

/-- An exchange confirms no mode. -/
theorem unconfirming_exchange {d u : Device} {output frame : Octets} {received : Option Control}
    {access : Option Access} {i₁ i₂ : Images} {now : Nat} {slots : Slots} {source : Link}
    {es₁ es₂ es₃ es₄ : Trace} (settles : Settles d es₁ u)
    (delivers : Delivers output u.images es₂ i₁) (signals : Signals received i₁ es₃ i₂)
    (serves : Serves now u.slots access es₄ slots) :
    Trace.Lacks Event.confirmsMode (.cycled :: (es₄ ++ (es₃ ++ (es₂ ++ (es₁ ++
      [.linkEvent source .transferSucceeded, .polled (some (.transferComplete frame))]))))) := by
  obtain ⟨upcalls, called, whole⟩ := upcalls_exchange settles delivers signals serves
    [.linkEvent source .transferSucceeded, .polled (some (.transferComplete frame))] []
  rw [List.append_nil, List.append_nil] at whole
  rw [whole]
  exact lacks_append.2 ⟨called.unconfirming, by simp⟩

namespace Device

/-! ## Limits -/

theorem limits_le (d : Device) (m : Mode) :
    (d.limits m).1 ≤ maxImage ∧ (d.limits m).2 ≤ maxImage :=
  ⟨Nat.le_trans (Nat.min_le_left ..) (Config.ceiling_le ..),
    Nat.le_trans (Nat.min_le_left ..) (Config.ceiling_le ..)⟩

/-- The images hold no more than they may, and that is what the latest confirmed mode allows. -/
structure Limited (d : Device) (t : Trace) : Prop where
  bounded : d.images.Bounded
  output : ∀ mode, d.link.mode? = some mode → d.images.output.maxLength =
    min (d.config.ceiling mode) (t.negotiated d.config.com).outputLength.toNat
  sio : d.link = .inactive → d.images.input.maxLength = 0 ∧ d.images.output.maxLength = 0

namespace Limited

variable {d u : Device} {es t : Trace}

theorem keeps (h : d.Limited t) (bounded : u.images.Bounded)
    (still : es.Lacks Event.confirmsMode) (config : u.config = d.config)
    (input : u.images.input.maxLength = d.images.input.maxLength)
    (output : u.images.output.maxLength = d.images.output.maxLength)
    (mode : ∀ m, u.link.mode? = some m → d.link.mode? = some m)
    (sio : u.link = .inactive → d.link = .inactive) : u.Limited (es ++ t) := by
  refine ⟨bounded, fun m up => ?_, fun down => ?_⟩
  · rw [output, config, negotiated_append _ still]
    exact h.output m (mode m up)
  · rw [input, output]
    exact h.sio (sio down)

/-- The link and the limits stay as they are. -/
theorem stays (h : d.Limited t) (still : es.Lacks Event.confirmsMode) (config : u.config = d.config)
    (images : u.images = d.images) (link : u.link = d.link) : u.Limited (es ++ t) := by
  refine h.keeps ?_ still config ?_ ?_ ?_ ?_
  · rw [images]
    exact h.bounded
  · rw [images]
  · rw [images]
  · exact fun m up => link ▸ up
  · exact fun down => link ▸ down

theorem stops (h : d.Limited t) (still : es.Lacks Event.confirmsMode)
    (away : u.link = .fault ∨ u.link.isSwitching = true) (images : u.images = d.images.invalidate)
    (config : u.config = d.config) : u.Limited (es ++ t) := by
  refine h.keeps ?_ still config ?_ ?_ ?_ ?_
  · rw [images]
    exact h.bounded.invalidate
  · rw [images]
    rfl
  · rw [images]
    rfl
  · intro m up
    cases link : u.link <;> simp [link, Link.mode?, Link.isSwitching] at up away
  · intro down
    simp [down, Link.isSwitching] at away

end Limited

theorem maxLength_of_delivers {data : Octets} {i j : Images} {es : Trace}
    (h : Delivers data i es j) : j.output.maxLength = i.output.maxLength := by cases h <;> rfl

theorem output_of_signals {received : Option Control} {i j : Images} {es : Trace}
    (h : Signals received i es j) : j.output = i.output ∧ j.unconsumed = i.unconsumed := by
  cases h <;> exact ⟨rfl, rfl⟩

theorem output_of_settles {d u : Device} {mode : Mode} {output : Octets} {es : Trace}
    (settles : Settles (d.succeeded mode output) es u) : u.images.output = d.images.output := by
  rw [settles.eq]
  rfl

theorem Move.limited {p : Phase} {d u : Device} {es t : Trace} (h : Move p d es u)
    (governed : d.Governed t) (before : d.Limited t) : u.Limited (es ++ t) := by
  have config := h.config_eq
  cases h with
  | establish link requested lost done =>
    rename_i mode es₁ es₂
    obtain ⟨hi, ho⟩ := d.limits_le mode
    have confirmed := (done.upcalls.append lost.upcalls).unconfirming
    rw [List.append_assoc]
    refine ⟨d.images.bounded_setLimits hi ho, fun m up => ?_, fun down => ?_⟩
    · obtain rfl : m = mode := by
        unfold established at up
        cases active : mode.active <;> simp_all [Link.mode?]
      have installed : (d.established m).images.output.maxLength =
        min (d.config.ceiling m) d.store.com.outputLength.toNat := rfl
      rw [installed, negotiated_append _ confirmed, governed.stored]
      rfl
    · have sio : mode = .inactive := by
        unfold established at down
        cases mode <;> simp_all [Mode.active]
      subst sio
      exact ⟨Nat.zero_min _, Nat.zero_min _⟩
  | exchange link decode fits settles delivers signals serves =>
    rename_i v mode frame master i₁ i₂ slots es₁ es₂ es₃ es₄
    have received := output_of_settles settles
    have settled : v.images.Bounded := before.bounded.settled settles
    have delivered := settled.delivers (by rw [received]; exact fits) delivers
    refine before.keeps (delivered.signals signals)
      (unconfirming_exchange settles delivers signals serves) config ?_ ?_ (fun m up => ?_)
      fun down => ?_
    · change i₂.input.maxLength = _
      rw [input_of_signals signals, input_of_delivers delivers, maxLength_of_settles settles]
      rfl
    · change i₂.output.maxLength = _
      rw [(output_of_signals signals).1, maxLength_of_delivers delivers, received]
    · rw [settles.eq] at up
      rw [link]
      exact up
    · rw [settles.eq] at down
      cases down
  | retry link mishap =>
    refine before.keeps before.bounded ?_ config rfl rfl (fun m up => ?_) fun down => ?_
    · cases mishap <;> simp
    · rw [link]
      exact up
    · cases down
  | exhaust link mishap left failed =>
    refine before.stops ?_ (.inl rfl) rfl config
    cases mishap <;> simp [failed.upcalls.unconfirming]
  | fault fatal failed =>
    refine before.stops ?_ (.inl rfl) rfl config
    cases fatal <;> simp [failed.upcalls.unconfirming]
  | switch quiet idle pending failed =>
    exact before.stops (by simp [failed.upcalls.unconfirming]) (.inr rfl) rfl config
  | refuseMode a quiet idle pending failed =>
    exact before.stays (by simp [failed.upcalls.unconfirming]) config rfl rfl
  | launch unhurried link =>
    refine before.keeps before.bounded (by simp) config rfl rfl (fun m up => ?_) fun down => ?_
    · rw [link]
      exact up
    · cases down
  | _ => exact before.stays (by simp) config rfl rfl

theorem Run.limited {c : Config} {d : Device} {t : Trace} (h : Run c d t) : d.Limited t := by
  induction h with
  | start =>
    have empty : Images.Bounded (.ofLimits 0 0) :=
      ⟨Nat.le_refl _, Nat.le_refl _, Nat.zero_le _, Nat.zero_le _⟩
    exact ⟨empty, nofun, fun _ => ⟨rfl, rfl⟩⟩
  | move before last ih => exact last.limited before.governed ih

/-! ## What is stored -/

/-- Output data that are offered fit, and those that are accepted become the output image. -/
def Takes (d : Device) (es : Trace) (u : Device) : Prop :=
  ∀ data accepted, .outputOffered data accepted ∈ es →
    0 < data.length ∧ data.length ≤ d.images.output.maxLength ∧
      (accepted = true → u.images.output.data = data ∧ u.images.unconsumed = none)

theorem takes_of_lacks {d u : Device} {es : Trace} (h : es.Lacks Event.offersOutput) :
    d.Takes es u := by
  intro data accepted mem
  have none := h _ mem
  cases none

theorem takes_of_delivers {d u : Device} {es : Trace} {data : Octets} {i : Images}
    (fits : data.length ≤ d.images.output.maxLength) (delivers : Delivers data u.images es i) :
    d.Takes es { u with images := i } := by
  intro other accepted mem
  cases delivers with
  | empty => cases mem
  | unchanged => cases mem
  | applied some =>
    cases List.mem_singleton.1 mem
    exact ⟨List.length_pos_iff.2 some, fits, fun _ => ⟨rfl, rfl⟩⟩
  | rejected some =>
    cases List.mem_singleton.1 mem
    exact ⟨List.length_pos_iff.2 some, fits, nofun⟩

/-- Of all that a valid exchange calls, only the delivery of its output data offers them. -/
theorem offered_of_exchange {d v : Device} {source : Link} {frame data : Octets} {accepted : Bool}
    {received : Option Control} {access : Option Access} {i₁ i₂ : Images} {now : Nat}
    {slots : Slots} {es₁ es₂ es₃ es₄ : Trace} (settles : Settles d es₁ v)
    (signals : Signals received i₁ es₃ i₂) (serves : Serves now v.slots access es₄ slots)
    (mem : .outputOffered data accepted ∈
      .cycled :: (es₄ ++ (es₃ ++ (es₂ ++ (es₁ ++
        [.linkEvent source .transferSucceeded, .polled (some (.transferComplete frame))]))))) :
    .outputOffered data accepted ∈ es₂ := by
  simp only [List.mem_cons, List.mem_append, reduceCtorEq, false_or, or_false,
    List.not_mem_nil] at mem
  rcases mem with served | signalled | delivered | settled
  · obtain ⟨_, _, answered⟩ := serves.mem served
    cases answered
  · obtain ⟨_, _, other⟩ := signals.mem signalled
    cases other
  · exact delivered
  · obtain ⟨_, _, _, other⟩ := settles.mem settled
    cases other

theorem Move.takes {d u : Device} {es : Trace} (h : Move .poll d es u) : d.Takes es u := by
  cases h with
  | establish link requested lost done =>
    exact takes_of_lacks (by simp [done.offerless, lost.offerless, Event.offersOutput])
  | exchange link decode fits settles delivers signals serves =>
    rename_i v mode frame master i₁ i₂ slots es₁ es₂ es₃ es₄
    intro data accepted mem
    have offered := offered_of_exchange settles signals serves mem
    obtain ⟨some, long, stored⟩ := takes_of_delivers fits delivers data accepted offered
    obtain ⟨output, unconsumed⟩ := output_of_signals signals
    refine ⟨some, long, fun yes => ?_⟩
    change i₂.output.data = data ∧ i₂.unconsumed = none
    rw [output, unconsumed]
    exact stored yes
  | retry link mishap =>
    exact takes_of_lacks (by cases mishap <;> simp [Event.offersOutput])
  | exhaust link mishap left failed =>
    exact takes_of_lacks (by cases mishap <;> simp [failed.offerless, Event.offersOutput])
  | fault fatal failed =>
    exact takes_of_lacks (by cases fatal <;> simp [failed.offerless, Event.offersOutput])
  | _ => exact takes_of_lacks (by simp [Event.offersOutput])

/-- Only a report changes what the images hold. -/
theorem Move.data_eq {p : Phase} {d u : Device} {es : Trace} (h : Move p d es u)
    (other : p ≠ .poll) :
    u.images.input.data = d.images.input.data ∧ u.images.output.data = d.images.output.data ∧
      u.images.unconsumed = d.images.unconsumed ∧ es.Lacks Event.offersOutput := by
  cases h with
  | silence | ignore | establish | exchange => exact absurd rfl other
  | retry link mishap =>
    exact ⟨rfl, rfl, rfl, by cases mishap <;> simp [Event.offersOutput]⟩
  | exhaust link mishap left failed =>
    exact ⟨rfl, rfl, rfl, by cases mishap <;> simp [failed.offerless, Event.offersOutput]⟩
  | fault fatal failed =>
    exact ⟨rfl, rfl, rfl, by cases fatal <;> simp [failed.offerless, Event.offersOutput]⟩
  | switch quiet idle pending failed =>
    exact ⟨rfl, rfl, rfl, by simp [failed.offerless, Event.offersOutput]⟩
  | refuseMode a quiet idle pending failed =>
    exact ⟨rfl, rfl, rfl, by simp [failed.offerless, Event.offersOutput]⟩
  | _ => exact ⟨rfl, rfl, rfl, by simp [Event.offersOutput]⟩

/-- Input data that ride on a frame fit. -/
theorem Run.input_of_riding {c : Config} {d : Device} {t : Trace} (h : Run c d t)
    (rides : d.riding = some .input) :
    ∃ data, d.slots.request? .input = some ⟨.input, data⟩ ∧
      data.length ≤ d.images.input.maxLength := by
  obtain ⟨out, kept, carries⟩ := Option.bind_eq_some_iff.1 rides
  cases h.builds kept with
  | cyclic => cases carries
  | input ticket fits => exact ⟨_, ticket, fits⟩
  | service mem =>
    rw [Option.some.inj carries] at mem
    exact absurd mem (by decide)

theorem input_of_settles {d u : Device} {es : Trace} {data : Octets} (settles : Settles d es u)
    (rides : d.riding = some .input) (ticket : d.slots.request? .input = some ⟨.input, data⟩)
    (fits : data.length ≤ d.images.input.maxLength) :
    u.images.input = { d.images.input with data, valid := true } := by
  have stored := Image.store_eq_ok_iff.2 ⟨fits, rfl⟩
  cases settles with
  | cyclic cyclic => cases cyclic.symm.trans rides
  | stray carries closed =>
    cases rides.symm.trans carries
    cases closed.symm.trans ticket
  | carried a carries found =>
    cases rides.symm.trans carries
    cases ticket.symm.trans found
    dsimp only
    rw [completion_input_ok stored]

/-- Input data that a valid answer completes are stored. -/
theorem Run.stores_input {c : Config} {p : Phase} {d u : Device} {es t : Trace} (run : Run c d t)
    (h : Move p d es u) {outcome : Outcome}
    (one : completions (es ++ t) = (.input, outcome) :: completions t) :
    outcome = .ok none ∧ ∃ data, d.slots.request? .input = some ⟨.input, data⟩ ∧
      u.images.input.data = data := by
  rcases (h.completes run.not_completing).2 with
    none | ⟨mode, output, c, rfl, link, up, done, one'⟩
  · exact absurd (one.symm.trans none) (List.cons_ne_self _ _)
  have same := (List.cons.inj (one'.symm.trans one)).1
  obtain ⟨rides, ticket, -⟩ := done
  obtain ⟨rfl, rfl⟩ := Prod.mk.inj same
  have rides : d.riding = some .input := rides
  obtain ⟨data, found, fits⟩ := run.input_of_riding rides
  obtain rfl := Option.some.inj (found.symm.trans ticket)
  have stored : (d.succeeded mode output).images.input.store data = _ :=
    Image.store_eq_ok_iff.2 ⟨fits, rfl⟩
  refine ⟨?_, data, found, ?_⟩
  · rw [completion_input_ok stored]
  cases h with
  | exchange link' decode fits' settles delivers signals serves =>
    rename_i v mode' frame master i₁ i₂ slots es₁ es₂ es₃ es₄
    change i₂.input.data = data
    rw [input_of_signals signals, input_of_delivers delivers,
      input_of_settles settles rides found fits]
  | retry link' mishap =>
    cases mishap <;>
      exact absurd (one.symm.trans (completions_unconfirmed (by simp [Event.confirmation?]) t))
        (List.cons_ne_self _ _)
  | silence => cases link.symm.trans up
  | ignore => cases link.symm.trans up
  | establish link' => cases link.symm.trans link'
  | exhaust => cases up
  | fault => cases up

end Device

/-! ## Steps -/

namespace Session

open Device

variable {σ : Type} {s t : Session σ} {c : Config}

/-- What one step hands to the images from either side. -/
structure Stores (s t : Session σ) : Prop where
  /-- Output data that are offered fit, and those that are accepted become the output image. -/
  output : ∃ new, t.env.trace.bare = new ++ s.env.trace.bare ∧ s.device.Takes new t.device
  /-- Input data that were sent become the input image. -/
  input : ∀ outcome, t.env.trace.completions = (.input, outcome) :: s.env.trace.completions →
    outcome = .ok none ∧ ∃ data, s.device.slots.request? .input = some ⟨.input, data⟩ ∧
      t.device.images.input.data = data

/-- Apart from reports of the transceiver, nothing is handed to the images. -/
theorem Performs.keeps_data {p : Phase} (h : Performs p s t) (other : p ≠ .poll) :
    ∃ new, t.env.trace.bare = new ++ s.env.trace.bare ∧ new.Lacks Event.offersOutput ∧
      t.device.images.input.data = s.device.images.input.data ∧
      t.device.images.output.data = s.device.images.output.data ∧
      t.device.images.unconsumed = s.device.images.unconsumed := by
  obtain ⟨es, trace, moves⟩ := h
  refine ⟨es, trace, ?_⟩
  clear trace
  generalize t.device = v at moves
  induction moves with
  | refl => exact ⟨Trace.lacks_nil, rfl, rfl, rfl⟩
  | tail before last ih =>
    obtain ⟨lacks, input, output, unconsumed⟩ := ih
    obtain ⟨input', output', unconsumed', lacks'⟩ := last.data_eq other
    exact ⟨Trace.lacks_append.2 ⟨lacks', lacks⟩, input'.trans input, output'.trans output,
      unconsumed'.trans unconsumed⟩

theorem Performs.stores {p : Phase} (h : Performs p s t) (other : p ≠ .poll)
    (run : Run c s.device s.env.trace.bare) : Stores s t := by
  have idle := run.not_completing
  rw [(completions_bare _).1] at idle
  obtain ⟨⟨-, same⟩, -⟩ := h.completes_nothing other idle
  obtain ⟨new, trace, lacks, -⟩ := h.keeps_data other
  refine ⟨⟨new, trace, takes_of_lacks lacks⟩, fun outcome one => ?_⟩
  exact absurd (one.symm.trans same) (List.cons_ne_self _ _)

variable [Transceiver σ] [Application σ]

theorem stores_tick (run : Run c s.device s.env.trace.bare) (now : Nat) :
    Stores s (s.tick now) := by
  obtain ⟨entered, polled, expired, worked⟩ := s.performs_tick now
  have run₁ := entered.performs.run run
  have run₂ := polled.performs.run run₁
  have run₃ := expired.run run₂
  have idle {u : Session σ} (run : Run c u.device u.env.trace.bare) :
      completing u.env.trace = false := by
    rw [← (completions_bare _).1]
    exact run.not_completing
  obtain ⟨⟨-, same₁⟩, -⟩ := entered.performs.completes_nothing nofun (idle run)
  obtain ⟨⟨-, same₃⟩, -⟩ := expired.completes_nothing nofun (idle run₂)
  obtain ⟨⟨-, same₄⟩, -⟩ := worked.completes_nothing nofun (idle run₃)
  obtain ⟨es₁, trace₁, lacks₁, -⟩ := entered.performs.keeps_data nofun
  obtain ⟨es₃, trace₃, lacks₃, input₃, output₃, unconsumed₃⟩ := expired.keeps_data nofun
  obtain ⟨es₄, trace₄, lacks₄, input₄, output₄, unconsumed₄⟩ := worked.keeps_data nofun
  obtain ⟨es₂, trace₂, move⟩ := polled
  constructor
  · refine ⟨es₄ ++ (es₃ ++ (es₂ ++ es₁)), by simp [*], fun data accepted mem => ?_⟩
    have offered : .outputOffered data accepted ∈ es₂ := by
      have not {es : Trace} (lacks : es.Lacks Event.offersOutput) :
          .outputOffered data accepted ∉ es := fun mem => nomatch lacks _ mem
      simpa [not lacks₁, not lacks₃, not lacks₄] using mem
    rw [output₄, output₃, unconsumed₄, unconsumed₃]
    exact move.takes data accepted offered
  · intro outcome one
    rw [same₄, same₃, ← same₁, ← (completions_bare ((s.enterTick now).poll now).env.trace).2,
      ← (completions_bare (s.enterTick now).env.trace).2, trace₂] at one
    rw [input₄, input₃]
    exact run₁.stores_input move one

theorem Step.stores (h : Step s t) (run : Run c s.device s.env.trace.bare) : Stores s t := by
  cases h with
  | tick now => exact stores_tick run now
  | submit r own => exact (s.makes_submit own).performs.stores nofun run
  | mapHost f =>
    have nothing : Performs .call s (s.mapHost f) := ⟨[], rfl, .refl _⟩
    exact nothing.stores nofun run

/-- In every run the images hold no more than they may, and that is no more than 32 octets. With a
link up it is what the configuration and the communication parameters allowed when the mode was
confirmed, in SIO it is nothing. The application is offered output data only that fit, so what it
accepts is stored, and so are input data that were sent. -/
theorem Reach.images_bounded (h : Reach s) :
    let input := s.device.images.input
    let output := s.device.images.output
    (input.data.length ≤ input.maxLength ∧ input.maxLength ≤ 32 ∧
      output.data.length ≤ output.maxLength ∧ output.maxLength ≤ 32) ∧
    (∀ mode, s.link.mode? = some mode →
      let com := s.env.trace.negotiated s.device.config.com
      input.maxLength = min (s.device.config.ceiling mode) com.inputLength.toNat ∧
        output.maxLength = min (s.device.config.ceiling mode) com.outputLength.toNat) ∧
    s.device.store.com = s.env.trace.com s.device.config.com ∧
    (s.link = .inactive → input.maxLength = 0 ∧ input.data = [] ∧
      output.maxLength = 0 ∧ output.data = []) ∧
    ∀ t, Step s t → Stores s t := by
  intro input output
  obtain ⟨c, -, run⟩ := h.run
  obtain ⟨⟨held, held', most, most'⟩, limit, sio⟩ := run.limited
  have governed := run.governed
  rw [negotiated_bare] at limit
  refine ⟨⟨held, most, held', most'⟩, fun mode up => ⟨?_, limit mode up⟩, ?_, fun down => ?_,
    fun t next => next.stores run⟩
  · rw [← negotiated_bare]
    exact governed.installed mode up
  · rw [← com_bare]
    exact governed.stored
  · obtain ⟨none, none'⟩ := sio down
    have empty {image : Image} (held : image.data.length ≤ image.maxLength)
        (none : image.maxLength = 0) : image.data = [] :=
      List.eq_nil_of_length_eq_zero (Nat.le_zero.1 (none ▸ held))
    exact ⟨none, empty held none, none', empty held' none'⟩

/-- The master sends output data, and the application takes them. -/
theorem images_bounded_linked :
    let s := Bench.linked.mapHost fun b =>
      { b with wire := { b.wire with
        queue := [.transferComplete (MasterFrame.encode ⟨none, none, [5, 6]⟩)] } }
    Reach s ∧ s.link.mode? = some .com1 ∧ s.device.images.output.maxLength = 4 ∧
      .outputOffered [5, 6] true ∈ (s.tick 3000).env.trace ∧
      (s.tick 3000).device.images.output.data = [5, 6] := by
  intro s
  have reach : Reach s := Bench.reach_linked.step (.mapHost ..)
  have up : s.link.mode? = some .com1 := by decide +kernel
  have limits : min (s.device.config.ceiling .com1)
      (s.env.trace.negotiated s.device.config.com).outputLength.toNat = 4 := by decide +kernel
  have before : s.env.trace.bare.Lacks Event.offersOutput := by unfold Trace.Lacks; decide +kernel
  have offered : .outputOffered [5, 6] true ∈ (s.tick 3000).env.trace := by
    have latest : (s.tick 3000).env.trace.findSome? Event.offer? = some ([5, 6], true) := by
      decide +kernel
    obtain ⟨later, e, earlier, whole, offer, -⟩ := List.findSome?_eq_some_iff.1 latest
    rw [whole]
    cases e with
    | outputOffered data accepted =>
      cases offer
      exact List.mem_append_right later List.mem_cons_self
    | _ => cases offer
  obtain ⟨-, limit, -, -, stores⟩ := reach.images_bounded
  obtain ⟨new, trace, takes⟩ := (stores _ (.tick s 3000)).output
  have bare : .outputOffered [5, 6] true ∈ (s.tick 3000).env.trace.bare :=
    List.mem_filter.2 ⟨offered, rfl⟩
  rw [trace] at bare
  rcases List.mem_append.1 bare with mem | mem
  · exact ⟨reach, up, (limit .com1 up).2.trans limits, offered, ((takes _ _ mem).2.2 rfl).1⟩
  · cases before _ mem

end Session

end Sdci
