import Sdci.Proofs.Codec.Device
import Sdci.Proofs.Handing
import Sdci.Proofs.ImageBounds

/-! # When process data mean anything

Process data mean something only on the link that they came over. Input data do once the master has
answered on it, output data once the application has taken some that came over it, and a control
code waits only there. Whatever ends a link ends all that.

* `Trace.replies`: the frames with which the master has answered since a mode was confirmed.
* `Trace.onLink`: all that has happened since then.
* `Device.Validated`: the flags of the images and the pending control code, in these terms.
* `Session.Reach.validity_discipline`: all of it in every run, and the flag of every frame.
-/

namespace Sdci
set_option autoImplicit false

/-- The most output data in a mode under these communication parameters. -/
def Config.outputLimit (c : Config) (m : Mode) (com : Com) : Nat :=
  min (c.ceiling m) com.outputLength.toNat

/-! ## Replies of the master -/

namespace Event

/-- The frame of the master that completes an exchange: it is reported while one is under way, it
can be read, and it has no more output data than the link was made for. -/
def reply? (c : Config) (before : Trace) : Event → Option MasterFrame
  | polled (some (.transferComplete frame)) =>
    match before.link, MasterFrame.decode frame with
    | .transferring mode, .ok master =>
      if master.output.length ≤ c.outputLimit mode (before.negotiated c.com) then some master
      else none
    | _, _ => none
  | _ => none

/-- The event may have a bearing on what process data mean. -/
def matters : Event → Bool
  | polled (some (.transferComplete _)) => true
  | linkEvent _ (.modeConfirmed _) => true
  | outputOffered _ _ => true
  | _ => false

theorem reply?_eq_none {c : Config} {before : Trace} {e : Event} (h : e.matters = false) :
    e.reply? c before = none := by
  unfold reply?
  split
  · cases h
  · rfl

theorem confirmsMode_eq_false {e : Event} (h : e.matters = false) : e.confirmsMode = false := by
  unfold confirmsMode
  split
  · cases h
  · rfl

theorem matters_eq_false_of_isRemark {e : Event} (remark : e.isRemark = true) :
    e.matters = false := by
  cases e <;> first | rfl | cases remark

end Event

namespace Trace

/-- The frames with which the master has answered since a mode was last confirmed, latest first. -/
def replies (c : Config) : Trace → List MasterFrame
  | [] => []
  | e :: t => if e.confirmsMode then [] else (e.reply? c t).toList ++ replies c t

/-- What has happened since a mode was last confirmed. -/
def onLink (t : Trace) : Trace := t.takeWhile fun e => !e.confirmsMode

/-- The application has taken output data since a mode was last confirmed. -/
def Applied (t : Trace) : Prop := ∃ data, .outputOffered data true ∈ t.onLink

variable {c : Config} {es : Trace}

theorem replies_cons {e : Event} (silent : e.confirmsMode = false) {t : Trace}
    (none : e.reply? c t = none) : replies c (e :: t) = replies c t := by
  rw [replies, silent, none]
  rfl

theorem reply?_bare (e : Event) (t : Trace) : e.reply? c (bare t) = e.reply? c t := by
  unfold Event.reply?
  rw [link_bare, negotiated_bare]

theorem replies_bare (t : Trace) : replies c (bare t) = replies c t := by
  induction t with
  | nil => rfl
  | cons e t ih =>
    cases remark : e.isRemark with
    | true =>
      have silent := Event.matters_eq_false_of_isRemark remark
      rw [bare_cons_remark remark, ih,
        replies_cons (Event.confirmsMode_eq_false silent) (Event.reply?_eq_none silent)]
    | false => rw [bare_cons remark, replies, replies, ih, reply?_bare]

theorem onLink_cons {e : Event} (silent : e.confirmsMode = false) (t : Trace) :
    onLink (e :: t) = e :: onLink t :=
  List.takeWhile_cons_of_pos (by rw [silent]; rfl)

theorem onLink_append (still : es.Lacks Event.confirmsMode) (t : Trace) :
    onLink (es ++ t) = es ++ onLink t :=
  List.takeWhile_append_of_pos fun e mem => by rw [still e mem]; rfl

theorem onLink_bare (t : Trace) : onLink (bare t) = bare (onLink t) := by
  induction t with
  | nil => rfl
  | cons e t ih =>
    cases confirms : e.confirmsMode with
    | true =>
      have kept : e.isRemark = false := by cases e <;> first | rfl | cases confirms
      have last (t : Trace) : onLink (e :: t) = [] :=
        List.takeWhile_cons_of_neg (by rw [confirms]; exact Bool.false_ne_true)
      rw [bare_cons kept, last, last]
      rfl
    | false =>
      rw [onLink_cons confirms]
      cases remark : e.isRemark with
      | true => rw [bare_cons_remark remark, bare_cons_remark remark, ih]
      | false => rw [bare_cons remark, onLink_cons confirms, bare_cons remark, ih]

theorem applied_bare (t : Trace) : Applied (bare t) ↔ Applied t := by
  have same (data : Octets) :
      .outputOffered data true ∈ onLink (bare t) ↔ .outputOffered data true ∈ onLink t := by
    rw [onLink_bare, bare, List.mem_filter]
    exact and_iff_left rfl
  exact exists_congr same

/-- Two histories say the same about process data. -/
structure Alike (c : Config) (s t : Trace) : Prop where
  replies : replies c s = replies c t
  applied : Applied s ↔ Applied t

theorem Alike.trans {s t u : Trace} (h₁ : Alike c s t) (h₂ : Alike c t u) : Alike c s u :=
  ⟨h₁.replies.trans h₂.replies, h₁.applied.trans h₂.applied⟩

theorem alike_cons {e : Event} {t : Trace} (silent : e.confirmsMode = false)
    (none : e.reply? c t = none) (other : e.offersOutput = false) : Alike c (e :: t) t := by
  refine ⟨replies_cons silent none, ?_⟩
  simp only [Applied, onLink_cons silent, List.mem_cons]
  refine exists_congr fun data => or_iff_right fun same => ?_
  rw [← same] at other
  cases other

theorem Upcalls.replies (h : es.Upcalls) (t : Trace) :
    Trace.replies c (es ++ t) = Trace.replies c t := by
  induction es with
  | nil => rfl
  | cons e es ih =>
    have upcall := h e List.mem_cons_self
    refine (replies_cons ?_ ?_).trans (ih fun x mem => h x (List.mem_cons_of_mem e mem))
    · cases e <;> first | rfl | cases upcall
    · cases e <;> first | rfl | cases upcall

theorem alike_append (still : es.Lacks Event.matters) (t : Trace) : Alike c (es ++ t) t := by
  induction es with
  | nil => exact ⟨rfl, Iff.rfl⟩
  | cons e es ih =>
    obtain ⟨first, rest⟩ := lacks_cons.1 still
    refine (alike_cons (Event.confirmsMode_eq_false first) (Event.reply?_eq_none first) ?_).trans
      (ih rest)
    cases e <;> first | rfl | cases first

end Trace

theorem Confirms.immaterial {outcome : Outcome} {ks : List Service} {es : Trace}
    (h : Confirms outcome ks es) : es.Lacks Event.matters := by
  intro e mem
  obtain ⟨_, _, rfl⟩ := h.mem mem
  rfl

open Trace

namespace Device

/-- What spoils an exchange brings no reply. -/
theorem Mishap.alike {d : Device} {p : Phase} {cause : Failure} {e : Event} {c : Config}
    (h : Mishap d p cause e) (t : Trace) : Alike c (e :: t) t := by
  cases h with
  | garbled decode =>
    refine alike_cons rfl ?_ rfl
    simp [Event.reply?, decode]
  | spoilt => exact alike_cons rfl rfl rfl
  | unanswered => exact alike_cons rfl rfl rfl

/-- The flags of the images and the pending control code follow from the history. -/
structure Validated (d : Device) (t : Trace) : Prop where
  input : d.images.input.valid = true ↔ d.link.mode?.isSome ∧ t.replies d.config ≠ []
  output : d.images.output.valid = true ↔ d.link.mode?.isSome ∧ t.Applied
  control : ∀ code, d.images.control = some code →
    d.link.mode?.isSome ∧ ∃ master ∈ t.replies d.config, master.control = some code

namespace Validated

variable {d u : Device} {es t t' : Trace}

theorem keeps (h : d.Validated t) (alike : Alike d.config t' t) (config : u.config = d.config)
    (images : u.images = d.images) (link : u.link.mode? = d.link.mode?) : u.Validated t' := by
  constructor
  · rw [images, link, config, alike.replies]
    exact h.input
  · rw [images, link, alike.applied]
    exact h.output
  · rw [images, link, config, alike.replies]
    exact h.control

theorem of_down (invalid : u.images = d.images.invalidate) (down : u.link.mode? = none) :
    u.Validated t' := by
  constructor
  · simp [invalid, Images.invalidate, Image.validate, down]
  · simp [invalid, Images.invalidate, Image.validate, down]
  · simp [invalid, Images.invalidate]

/-- Without a link nothing is valid. -/
theorem invalid (h : d.Validated t) (down : d.link.mode? = none) :
    d.images.input.valid = false ∧ d.images.output.valid = false ∧ d.images.control = none := by
  refine ⟨?_, ?_, ?_⟩
  · refine Bool.eq_false_iff.2 fun valid => ?_
    have up := (h.input.1 valid).1
    simp [down] at up
  · refine Bool.eq_false_iff.2 fun valid => ?_
    have up := (h.output.1 valid).1
    simp [down] at up
  · refine Option.eq_none_iff_forall_ne_some.2 fun code pending => ?_
    have up := (h.control code pending).1
    simp [down] at up

end Validated

/-! ## An exchange -/

section Exchange

variable {d v : Device} {mode : Mode} {frame : Octets} {master : MasterFrame} {i₁ i₂ : Images}
  {slots : Slots} {es₁ es₂ es₃ es₄ t : Trace}

theorem reply_of_transferring (told : d.Told t) (limited : d.Limited t)
    (link : d.link = .transferring mode) (decode : MasterFrame.decode frame = .ok master)
    (fits : master.output.length ≤ d.images.output.maxLength) :
    Event.reply? d.config t (.polled (some (.transferComplete frame))) = some master := by
  have limit : d.images.output.maxLength =
      d.config.outputLimit mode (t.negotiated d.config.com) :=
    limited.output mode (by rw [link]; rfl)
  rw [limit] at fits
  simp [Event.reply?, told.link, link, decode, fits]

/-- The reply of the master counts, and it is the latest. -/
theorem replies_exchange (told : d.Told t) (limited : d.Limited t)
    (link : d.link = .transferring mode) (decode : MasterFrame.decode frame = .ok master)
    (fits : master.output.length ≤ d.images.output.maxLength)
    (settles : Settles (d.succeeded mode master.output) es₁ v)
    (delivers : Delivers master.output v.images es₂ i₁)
    (signals : Signals master.control i₁ es₃ i₂)
    (serves : Serves d.lastTick v.slots master.access es₄ slots) :
    replies d.config (.cycled :: (es₄ ++ (es₃ ++ (es₂ ++ (es₁ ++
        [.linkEvent d.link .transferSucceeded, .polled (some (.transferComplete frame))])))) ++ t) =
      master :: replies d.config t := by
  obtain ⟨upcalls, called, whole⟩ := upcalls_exchange settles delivers signals serves
    [.linkEvent d.link .transferSucceeded, .polled (some (.transferComplete frame))] t
  rw [whole, called.replies]
  change replies d.config (.polled (some (.transferComplete frame)) :: t) = _
  rw [replies, reply_of_transferring told limited link decode fits]
  rfl

/-- The application has taken output data if it takes these, or has taken some before. -/
theorem applied_exchange (settles : Settles (d.succeeded mode master.output) es₁ v)
    (delivers : Delivers master.output v.images es₂ i₁)
    (signals : Signals master.control i₁ es₃ i₂)
    (serves : Serves d.lastTick v.slots master.access es₄ slots) :
    Applied (.cycled :: (es₄ ++ (es₃ ++ (es₂ ++ (es₁ ++
        [.linkEvent d.link .transferSucceeded, .polled (some (.transferComplete frame))])))) ++ t) ↔
      (∃ data, .outputOffered data true ∈ es₂) ∨ Applied t := by
  unfold Applied
  rw [onLink_append (unconfirming_exchange settles delivers signals serves)]
  constructor
  · rintro ⟨data, mem⟩
    rcases List.mem_append.1 mem with new | old
    · exact .inl ⟨data, offered_of_exchange settles signals serves new⟩
    · exact .inr ⟨data, old⟩
  · rintro (⟨data, new⟩ | ⟨data, old⟩)
    · exact ⟨data, List.mem_append_left _ (by simp [new])⟩
    · exact ⟨data, List.mem_append_right _ old⟩

theorem output_valid_of_delivers (before : d.Validated t) (link : d.link = .transferring mode)
    (same : v.images.output = d.images.output) (delivers : Delivers master.output v.images es₂ i₁) :
    i₁.output.valid = true ↔ (∃ data, .outputOffered data true ∈ es₂) ∨ Applied t := by
  have up : d.link.mode?.isSome := by rw [link]; rfl
  have output := before.output
  rw [← same] at output
  cases delivers with
  | empty => simp [output, up]
  | unchanged some unchanged => simp [unchanged.1, (output.1 unchanged.1).2]
  | applied => simp
  | rejected => simp [output, up]

/-- The input image is valid after an exchange, whatever rode on its frame. -/
theorem input_valid_of_settles (settles : Settles (d.succeeded mode master.output) es₁ v) :
    v.images.input.valid = true := by
  cases settles with
  | cyclic => rfl
  | stray => rfl
  | carried a rides ticket =>
    rename_i kind request
    unfold completion
    split
    · rename_i data
      cases stored : (d.succeeded mode master.output).images.input.store data with
      | error cause => rfl
      | ok input =>
        obtain ⟨-, rfl⟩ := Image.store_eq_ok_iff.1 stored
        rfl
    all_goals rfl

theorem control_of_settles (settles : Settles (d.succeeded mode master.output) es₁ v) :
    v.images.control = d.images.control := by
  rw [settles.eq]
  rfl

theorem control_of_delivers {data : Octets} {i j : Images} (h : Delivers data i es₂ j) :
    j.control = i.control := by cases h <;> rfl

theorem control_of_signals {received : Option Control} {i j : Images} {code : Control}
    (h : Signals received i es₃ j) (pending : j.control = some code) :
    received = some code ∨ i.control = some code := by
  cases h with
  | quiet none => exact .inr pending
  | taken => cases pending
  | refused some =>
    obtain rfl := Option.some.inj pending
    cases received with
    | none => exact .inr some
    | some other => exact .inl some

end Exchange

/-! ## One move -/

theorem Move.validated {p : Phase} {d u : Device} {es t : Trace} (h : Move p d es u)
    (told : d.Told t) (limited : d.Limited t) (before : d.Validated t) : u.Validated (es ++ t) := by
  have config := h.config_eq
  have still (lacks : es.Lacks Event.matters) (images : u.images = d.images)
      (link : u.link.mode? = d.link.mode?) : u.Validated (es ++ t) :=
    before.keeps (alike_append lacks t) config images link
  cases h with
  | ignore useless =>
    rename_i i
    refine before.keeps (alike_cons rfl ?_ rfl) config rfl rfl
    cases i with
    | transferComplete frame =>
      cases link : d.link <;> simp_all [Link.ignores, Event.reply?, told.link]
    | _ => rfl
  | establish link requested lost done =>
    rename_i mode es₁ es₂
    obtain ⟨input, output, control⟩ := before.invalid (by rw [link]; rfl)
    obtain ⟨replies, applied⟩ := alike_append (c := d.config)
      (lacks_append.2 ⟨done.immaterial, lost.immaterial⟩)
      ([.linkEvent d.link (.modeConfirmed mode), .polled (some (.modeSwitched mode))] ++ t)
    have unanswered := replies.trans (b := []) rfl
    have unapplied := (not_congr applied).2 fun some =>
      some.elim fun _ mem => List.not_mem_nil mem
    rw [List.append_assoc]
    constructor
    · change d.images.input.valid = true ↔ _
      rw [input, config, unanswered]
      exact iff_of_false Bool.false_ne_true fun answered => answered.2 rfl
    · change d.images.output.valid = true ↔ _
      rw [output]
      exact iff_of_false Bool.false_ne_true fun applied => unapplied applied.2
    · change ∀ code, d.images.control = some code → _
      rw [control]
      intro code pending
      cases pending
  | exchange link decode fits settles delivers signals serves =>
    rename_i v mode frame master i₁ i₂ slots es₁ es₂ es₃ es₄
    have up : v.link.mode?.isSome := by
      rw [settles.eq]
      rfl
    have answered := replies_exchange told limited link decode fits settles delivers signals serves
    constructor
    · change i₂.input.valid = true ↔ _
      rw [config, answered, input_of_signals signals, input_of_delivers delivers]
      simp [input_valid_of_settles settles, up]
    · change i₂.output.valid = true ↔ v.link.mode?.isSome ∧ _
      rw [applied_exchange settles delivers signals serves, (output_of_signals signals).1,
        output_valid_of_delivers before link (output_of_settles settles) delivers]
      simp [up]
    · intro code pending
      refine ⟨up, ?_⟩
      rw [config, answered]
      rcases control_of_signals signals pending with received | waiting
      · exact ⟨master, List.mem_cons_self, received⟩
      · rw [control_of_delivers delivers, control_of_settles settles] at waiting
        obtain ⟨-, earlier, mem, same⟩ := before.control code waiting
        exact ⟨earlier, List.mem_cons_of_mem _ mem, same⟩
  | retry link mishap left =>
    rename_i mode cause e
    have silent : Trace.Lacks Event.matters [.cycled, .linkEvent d.link .recoverableError] :=
      lacks_cons.2 ⟨rfl, lacks_cons.2 ⟨rfl, lacks_nil⟩⟩
    exact before.keeps ((alike_append silent (e :: t)).trans (mishap.alike t)) config rfl
      (by rw [link]; rfl)
  | exhaust => exact .of_down rfl rfl
  | fault => exact .of_down rfl rfl
  | switch => exact .of_down rfl rfl
  | refuseMode a quiet idle pending failed =>
    exact still (by simp [failed.immaterial, Event.matters]) rfl rfl
  | launch unhurried link => exact still (by simp [Event.matters]) rfl (by rw [link]; rfl)
  | _ => exact still (by simp [Event.matters]) rfl rfl

theorem Run.validated {c : Config} {d : Device} {t : Trace} (h : Run c d t) : d.Validated t := by
  induction h with
  | start =>
    constructor
    · simp [ofConfig, Images.ofLimits, Link.mode?]
    · simp [ofConfig, Images.ofLimits, Link.mode?]
    · intro code pending
      cases pending
  | move before last ih => exact last.validated before.told before.limited ih

end Device

namespace Session

open Device

variable {σ : Type} [Transceiver σ] [Application σ] {s : Session σ}

/-- In every run the input data are valid exactly if the link is up and the master has answered
since it was confirmed, and the output data exactly if the link is up and the application has taken
some since then. A control code waits only while the link is up, and the master sent it on this
link. A frame of process data that the transceiver is handed says that they are valid exactly if it
carries an input update, or the master has answered on this link before. -/
theorem Reach.validity_discipline (h : Reach s) :
    let t := s.env.trace
    let c := s.device.config
    (s.device.images.input.valid = true ↔ s.link.mode?.isSome ∧ t.replies c ≠ []) ∧
    (s.device.images.output.valid = true ↔
      s.link.mode?.isSome ∧ ∃ data, .outputOffered data true ∈ t.onLink) ∧
    (∀ code, s.device.images.control = some code →
      s.link.mode?.isSome ∧ ∃ master ∈ t.replies c, master.control = some code) ∧
    ∀ now frame accepted,
      (s.tick now).env.trace.calls = .transferred frame accepted :: s.env.trace.calls →
      ∃ out, (s.prepare now).device.Chooses out ∧ frame = out.frame.encode ∧
        ∀ valid data, DeviceFrame.decode frame = .ok (.processData valid data) →
          (valid = true ↔
            out.carries = some .input ∨ (s.prepare now).env.trace.replies c ≠ []) := by
  intro t c
  obtain ⟨c', -, run⟩ := h.run
  have here := run.validated
  refine ⟨?_, ?_, ?_, fun now frame accepted call => ?_⟩
  · rw [← replies_bare]
    exact here.input
  · exact here.output.trans (and_congr_right fun _ => applied_bare t)
  · rw [← replies_bare]
    exact here.control
  · obtain ⟨mode, out, link, chosen, rfl⟩ := chooses_of_call run call
    have run' := run_prepare run now
    have config : (s.prepare now).device.config = c := run'.config_eq.trans run.config_eq.symm
    have up : (s.prepare now).device.link.mode?.isSome := by rw [link]; rfl
    refine ⟨out, chosen, rfl, fun valid data decode => ?_⟩
    rw [DeviceFrame.decode_encode] at decode
    have suits := run'.suits chosen
    rw [← replies_bare, ← config]
    cases suits with
    | cyclic =>
      obtain ⟨rfl, -⟩ := DeviceFrame.processData.inj (Except.ok.inj decode)
      simpa [up] using run'.validated.input
    | input fits =>
      obtain ⟨rfl, -⟩ := DeviceFrame.processData.inj (Except.ok.inj decode)
      simp
    | service => cases decode

/-- The first reply on a link makes the input data valid. -/
theorem validity_discipline_linked :
    let c := Bench.linked.device.config
    let next := (DeviceFrame.processData true []).encode
    Reach Bench.linked ∧ Bench.linked.device.images.input.valid = false ∧
      (∃ accepted, (Bench.linked.tick 3000).env.trace.calls =
        .transferred next accepted :: Bench.linked.env.trace.calls) ∧
      (Bench.linked.prepare 3000).env.trace.replies c ≠ [] := by
  intro c next
  have reach := Bench.reach_linked
  obtain ⟨_, -, run⟩ := reach.run
  obtain ⟨accepted, call⟩ := exists_call run 3000 next (by decide +kernel) (by decide +kernel)
  have invalid : Bench.linked.device.images.input.valid = false := by decide +kernel
  have riderless : (Bench.linked.prepare 3000).device.slots.isOpen .input = false := by
    decide +kernel
  obtain ⟨-, -, -, frames⟩ := reach.validity_discipline
  obtain ⟨out, chosen, -, flag⟩ := frames 3000 next accepted call
  refine ⟨reach, invalid, ⟨accepted, call⟩, ?_⟩
  rcases (flag true [] (DeviceFrame.decode_encode _)).1 rfl with carries | answered
  · obtain ⟨r, request, -⟩ := (run_prepare run 3000).frame_of_chosen chosen carries
    cases riderless.symm.trans (Slots.isOpen_of_request? request)
  · exact answered

end Session

end Sdci
