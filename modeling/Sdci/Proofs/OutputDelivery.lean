import Sdci.Proofs.Handover

/-! # Output data reach the application once

A master sends its output data in every frame, the application hears of them when they change. What
it has taken is kept in the output image, what it refused last is kept beside it, and the contents
of the image outlive the link although they mean nothing then.

* `Trace.offers`, `Trace.accepted`: the output data that were offered, and those taken last.
* `Event.repeats`: a reply of the master that brings what is already applied.
* `Trace.unconsumed`: the output data that were refused last, if nothing has settled that since.
* `Device.Delivered`: the device knows all this.
* `Session.Reach.output_delivery`: what is offered, when, and what becomes of it, in every run.
-/

namespace Sdci
set_option autoImplicit false

namespace Event

def accepted? : Event → Option Octets
  | outputOffered data true => some data
  | _ => none

end Event

namespace Trace

/-- The output data that the application was offered and its answers, latest first. -/
def offers (t : Trace) : List (Octets × Bool) := t.filterMap Event.offer?

/-- The output data that the application has taken last. -/
def accepted (t : Trace) : Option Octets := t.findSome? Event.accepted?

end Trace

/-- A reply of the master brings the output data that the application has taken last on this
link. -/
def Event.repeats (c : Config) (before : Trace) (e : Event) : Bool :=
  (e.reply? c before).any fun master =>
    !master.output.isEmpty && before.onLink.accepted == some master.output

namespace Trace

/-- The output data that were refused, unless others have been offered since, or those that are
applied have come again. -/
def unconsumed (c : Config) : Trace → Option Octets
  | [] => none
  | e :: t =>
    match e.offer? with
    | some (data, accepted) => if accepted then none else some data
    | none => if e.repeats c t then none else unconsumed c t

variable {c : Config} {es t : Trace}

theorem repeatless_of_replyless (h : es.Without (Event.isReply c) t) :
    es.Without (Event.repeats c) t := by
  intro e m latest
  rw [Event.repeats, Event.isReply_eq_false_iff.1 (h e m latest)]
  rfl

theorem unconsumed_append (silent : es.Lacks Event.offersOutput)
    (new : es.Without (Event.repeats c) t) : unconsumed c (es ++ t) = unconsumed c t := by
  induction es with
  | nil => rfl
  | cons e es ih =>
    obtain ⟨first, rest⟩ := lacks_cons.1 silent
    obtain ⟨once, later⟩ := without_cons.1 new
    have unoffered : e.offer? = none := by cases e <;> first | rfl | cases first
    rw [List.cons_append, unconsumed, unoffered, once]
    exact ih rest later

/-- Refused data are kept as long as nothing is offered and nothing comes again. -/
theorem unconsumed_eq_some_iff {data : Octets} :
    unconsumed c t = some data ↔
      ∃ later earlier : Trace, t = later ++ .outputOffered data false :: earlier ∧
        later.Lacks Event.offersOutput ∧
        later.Without (Event.repeats c) (.outputOffered data false :: earlier) := by
  constructor
  · intro h
    induction t with
    | nil => cases h
    | cons e t ih =>
      rw [unconsumed] at h
      cases offer : e.offer? with
      | some found =>
        obtain ⟨offered, accepted⟩ := found
        rw [offer] at h
        cases accepted with
        | true => cases h
        | false =>
          cases h
          obtain rfl : e = .outputOffered data false := by
            cases e <;> cases offer
            rfl
          exact ⟨[], t, rfl, lacks_nil, without_nil⟩
      | none =>
        rw [offer] at h
        cases again : e.repeats c t with
        | true =>
          rw [again] at h
          cases h
        | false =>
          rw [again] at h
          obtain ⟨later, earlier, rfl, silent, new⟩ := ih h
          refine ⟨e :: later, earlier, rfl, lacks_cons.2 ⟨?_, silent⟩,
            without_cons.2 ⟨again, new⟩⟩
          cases e <;> first | rfl | cases offer
  · rintro ⟨later, earlier, rfl, silent, new⟩
    rw [unconsumed_append silent new]
    rfl

/-! ## Traces without remarks -/

theorem offers_bare (t : Trace) : offers (bare t) = offers t :=
  filterMap_bare (fun e remark => by cases e <;> first | rfl | cases remark) t

theorem offers_append (es t : Trace) : offers (es ++ t) = offers es ++ offers t :=
  List.filterMap_append

theorem offers_eq_nil (silent : es.Lacks Event.offersOutput) : offers es = [] :=
  List.filterMap_eq_nil_iff.2 fun e mem => by
    have none := silent e mem
    cases e <;> first | rfl | cases none

theorem accepted_bare (t : Trace) : accepted (bare t) = accepted t :=
  findSome_bare_of (fun e remark => by cases e <;> first | rfl | cases remark) t

theorem repeats_bare (e : Event) (t : Trace) : e.repeats c (bare t) = e.repeats c t := by
  rw [Event.repeats, Event.repeats, onLink_bare, accepted_bare, reply?_bare]

theorem unconsumed_bare (t : Trace) : unconsumed c (bare t) = unconsumed c t := by
  induction t with
  | nil => rfl
  | cons e t ih =>
    cases remark : e.isRemark with
    | true =>
      have silent := Event.matters_eq_false_of_isRemark remark
      have none : e.reply? c t = none := Event.reply?_eq_none silent
      have unoffered : e.offer? = Option.none := by cases e <;> first | rfl | cases remark
      rw [bare_cons_remark remark, unconsumed, unoffered, Event.repeats, none, ih]
      rfl
    | false => rw [bare_cons remark, unconsumed, unconsumed, repeats_bare, ih]

/-! ## On one link -/

theorem onLink_append_of_confirms (h : ¬es.Lacks Event.confirmsMode) (t : Trace) :
    onLink (es ++ t) = onLink es := by
  induction es with
  | nil => exact absurd lacks_nil h
  | cons e es ih =>
    cases confirms : e.confirmsMode with
    | true =>
      have last (t : Trace) : onLink (e :: t) = [] :=
        List.takeWhile_cons_of_neg (by rw [confirms]; exact Bool.false_ne_true)
      rw [List.cons_append, last, last]
    | false =>
      rw [List.cons_append, onLink_cons confirms, onLink_cons confirms,
        ih fun still => h (lacks_cons.2 ⟨confirms, still⟩)]

theorem accepted_append (silent : es.Lacks Event.offersOutput) (t : Trace) :
    accepted (es ++ t) = accepted t :=
  findSome_append (fun e mem => by
    have none := silent e mem
    cases e <;> first | rfl | cases none) t

/-- What was taken on this link was taken last of all. -/
theorem accepted_of_onLink {data : Octets} (h : t.onLink.accepted = some data) :
    t.accepted = some data := by
  rw [← t.takeWhile_append_dropWhile (p := fun e => !e.confirmsMode), accepted,
    List.findSome?_append]
  exact Option.or_eq_some_iff.2 (.inl h)

theorem applied_of_accepted {data : Octets} (h : t.onLink.accepted = some data) : t.Applied := by
  obtain ⟨e, mem, taken⟩ := List.exists_of_findSome?_eq_some h
  cases e with
  | outputOffered offered accepted =>
    cases accepted with
    | true => exact ⟨offered, mem⟩
    | false => cases taken
  | _ => cases taken

end Trace

open Trace

namespace Device

/-! ## The end of an exchange -/

/-- The delivery of the output data, in the history of an exchange. -/
structure Delivery (d u : Device) (frame data : Octets) (es : Trace) (i j : Images)
    (offered : Trace) : Prop where
  delivers : Delivers data i offered j
  before : i.output = d.images.output ∧ i.unconsumed = d.images.unconsumed
  after : u.images.output = j.output ∧ u.images.unconsumed = j.unconsumed
  around : d.Around frame Event.offersOutput offered es

theorem Closing.delivery {d u : Device} {mode : Mode} {frame : Octets} {master : MasterFrame}
    {es : Trace} (h : d.Closing mode frame master es u) :
    ∃ i j offered, Delivery d u frame master.output es i j offered := by
  cases h with
  | intro settles delivers signals serves =>
    rename_i v i₁ i₂ slots es₁ es₂ es₃ es₄
    refine ⟨v.images, i₁, es₂, delivers, ?_, output_of_signals signals, ?_⟩
    · rw [settles.eq]
      exact ⟨rfl, rfl⟩
    · have served : es₄.Lacks Event.offersOutput :=
        serves.lacks (fun _ _ _ => rfl) fun _ _ _ _ => rfl
      have signalled : es₃.Lacks Event.offersOutput := signals.lacks fun _ _ => rfl
      have later : Trace.Lacks Event.offersOutput (.cycled :: (es₄ ++ es₃)) :=
        lacks_cons.2 ⟨rfl, lacks_append.2 ⟨served, signalled⟩⟩
      have called : Trace.Upcalls (.cycled :: (es₄ ++ es₃) ++ es₁) :=
        List.forall_mem_cons.2
          ⟨rfl, (serves.upcalls.append signals.upcalls).append settles.upcalls⟩
      have around : d.Around frame Event.offersOutput es₂ _ :=
        .intro later (settles.lacks fun _ _ _ => rfl) called
      simpa using around

theorem offerless_begun (l : Link) (frame : Octets) : Trace.Lacks Event.offersOutput
    [.linkEvent l .transferSucceeded, .polled (some (.transferComplete frame))] := by
  simp [Event.offersOutput]

namespace Delivery

variable {d u : Device} {frame data : Octets} {es offered : Trace} {i j : Images}

theorem accepted_append (h : Delivery d u frame data es i j offered) (t : Trace) :
    Trace.accepted (es ++ t) = Trace.accepted (offered ++ t) := by
  obtain ⟨delivers, -, -, later, earlier, -⟩ := h
  have begun := lacks_append.2 ⟨earlier, offerless_begun d.link frame⟩
  rw [List.append_assoc, Trace.accepted_append later, List.append_assoc]
  cases delivers <;> first | exact Trace.accepted_append begun t | rfl

theorem unconsumed_append (h : Delivery d u frame data es i j offered) (c : Config) (t : Trace) :
    Trace.unconsumed c (es ++ t) =
      Trace.unconsumed c (offered ++ .polled (some (.transferComplete frame)) :: t) := by
  obtain ⟨delivers, -, -, later, earlier, called⟩ := h
  rename_i after before
  obtain ⟨unheard, unheard'⟩ := lacks_append.1 called.receives
  have settled : Trace.unconsumed c (before ++ [.linkEvent d.link .transferSucceeded,
      .polled (some (.transferComplete frame))] ++ t) =
      Trace.unconsumed c (.polled (some (.transferComplete frame)) :: t) := by
    rw [List.append_assoc, Trace.unconsumed_append earlier
      (repeatless_of_replyless (replyless_of_lacks unheard'))]
    rfl
  rw [List.append_assoc, Trace.unconsumed_append later
    (repeatless_of_replyless (replyless_of_lacks unheard)), List.append_assoc]
  cases delivers <;> first | exact settled | rfl

theorem offers_eq (h : Delivery d u frame data es i j offered) : es.offers = offered.offers := by
  obtain ⟨-, -, -, later, earlier, -⟩ := h
  have begun := lacks_append.2 ⟨earlier, offerless_begun d.link frame⟩
  rw [offers_append, offers_eq_nil later, offers_append, offers_eq_nil begun, List.append_nil]
  rfl

/-- In an exchange no offer follows another. -/
theorem first (h : Delivery d u frame data es i j offered) {data : Octets} {accepted : Bool}
    {m : Trace} (offer : .outputOffered data accepted :: m <:+ es) :
    .outputOffered data accepted ∈ offered ∧ m.Lacks Event.offersOutput := by
  obtain ⟨delivers, -, -, later, earlier, -⟩ := h
  have begun := lacks_append.2 ⟨earlier, offerless_begun d.link frame⟩
  obtain ⟨m, rfl, within⟩ := suffix_part rfl later begun offer
  refine ⟨within.subset List.mem_cons_self, lacks_append.2 ⟨?_, begun⟩⟩
  have single : offered.length ≤ 1 := by cases delivers <;> simp
  obtain rfl : m = [] := List.eq_nil_of_length_eq_zero (by
    have := within.length_le
    simp only [List.length_cons] at this
    omega)
  exact lacks_nil

end Delivery

/-- The history tells what the application has taken and refused. -/
structure Delivered (d : Device) (t : Trace) : Prop where
  accepted : d.images.output.valid = true → t.onLink.accepted = some d.images.output.data
  replied : ∀ data, t.onLink.accepted = some data →
    data ≠ [] ∧ ∃ master ∈ t.replies d.config, master.output = data
  unconsumed : d.images.unconsumed = t.unconsumed d.config

theorem Delivered.applied_iff {d : Device} {t : Trace} (h : d.Delivered t) (valid : d.Validated t)
    (up : d.link.mode?.isSome) (data : Octets) :
    d.images.output.valid = true ∧ d.images.output.data = data ↔
      t.onLink.accepted = some data := by
  constructor
  · rintro ⟨means, rfl⟩
    exact h.accepted means
  · intro taken
    have means := valid.output.2 ⟨up, applied_of_accepted taken⟩
    exact ⟨means, Option.some.inj ((h.accepted means).symm.trans taken)⟩

theorem Delivered.withholds {d u : Device} {es t : Trace} (h : d.Delivered t)
    (valid : u.Validated (es ++ t)) (config : u.config = d.config)
    (withholds : d.Withholds es u) (replyless : es.Without (Event.isReply d.config) t) :
    u.Delivered (es ++ t) := by
  have unconsumed : u.images.unconsumed = (es ++ t).unconsumed u.config := by
    rw [withholds.unconsumed, h.unconsumed, config,
      unconsumed_append withholds.offerless (repeatless_of_replyless replyless)]
  by_cases still : es.Lacks Event.confirmsMode
  · have same : (es ++ t).onLink.accepted = t.onLink.accepted := by
      rw [onLink_append still, accepted_append withholds.offerless]
    refine ⟨fun means => ?_, fun data taken => ?_, unconsumed⟩
    · have kept : es.Lacks Event.endsLink := Classical.not_not.1 fun lost => by
        cases means.symm.trans (withholds.ends lost).1
      rw [same, withholds.data still]
      exact h.accepted ((withholds.stays kept).1.symm.trans means)
    · rw [config, replies_append still replyless]
      exact h.replied data (same.symm.trans taken)
  · -- A new link has taken nothing yet.
    have none (data : Octets) : .outputOffered data true ∉ (es ++ t).onLink := fun mem => by
      rw [onLink_append_of_confirms still] at mem
      cases withholds.offerless _ (List.takeWhile_sublist _ |>.subset mem)
    have fresh : ¬(es ++ t).Applied := fun ⟨data, mem⟩ => none data mem
    refine ⟨fun means => ?_, fun data taken => ?_, unconsumed⟩
    · exact absurd (valid.output.1 means).2 fresh
    · exact absurd (applied_of_accepted taken) fresh

theorem Delivered.closes {d u : Device} {mode : Mode} {frame : Octets} {master : MasterFrame}
    {es t : Trace} (h : d.Delivered t) (valid : d.Validated t) (told : d.Told t)
    (limited : d.Limited t) (link : d.link = .transferring mode)
    (decode : MasterFrame.decode frame = .ok master)
    (fits : master.output.length ≤ d.images.output.maxLength) (config : u.config = d.config)
    (closing : d.Closing mode frame master es u) : u.Delivered (es ++ t) := by
  have replies := closing.replies told limited link decode fits
  have reply := reply_of_transferring told limited link decode fits
  have applied := h.applied_iff valid (by rw [link]; rfl) master.output
  obtain ⟨i, j, offered, delivery⟩ := closing.delivery
  have settled := delivery.unconsumed_append d.config t
  have taken : (es ++ t).onLink.accepted = Trace.accepted (offered ++ t.onLink) := by
    rw [onLink_append closing.unconfirming, delivery.accepted_append]
  obtain ⟨delivers, ⟨same, kept⟩, ⟨output, unconsumed⟩, -⟩ := delivery
  have again : Trace.unconsumed d.config (.polled (some (.transferComplete frame)) :: t) =
      if master.output ≠ [] ∧ t.onLink.accepted = some master.output then none
      else t.unconsumed d.config := by
    change (if Event.repeats d.config t _ then none else _) = _
    rw [Event.repeats, reply]
    simp
  -- What was taken before still counts if nothing is taken now.
  have before (data : Octets) (taken : t.onLink.accepted = some data) :
      data ≠ [] ∧ ∃ m ∈ Trace.replies u.config (es ++ t), m.output = data := by
    obtain ⟨some, m, mem, brought⟩ := h.replied data taken
    rw [config, replies]
    exact ⟨some, m, List.mem_cons_of_mem master mem, brought⟩
  rw [← same] at applied
  cases delivers with
  | empty empty =>
    refine ⟨fun means => ?_, fun data found => before data (taken.symm.trans found), ?_⟩
    · rw [output, same] at means ⊢
      exact taken.trans (h.accepted means)
    · rw [unconsumed, kept, h.unconsumed, config, settled]
      exact (again.trans (if_neg fun new => new.1 empty)).symm
  | unchanged some unchanged =>
    refine ⟨fun means => ?_, fun data found => before data (taken.symm.trans found), ?_⟩
    · rw [output, same] at means ⊢
      exact taken.trans (h.accepted means)
    · rw [unconsumed, config, settled]
      exact (again.trans (if_pos ⟨some, applied.1 unchanged⟩)).symm
  | applied some new =>
    refine ⟨fun means => ?_, fun data found => ?_, ?_⟩
    · rw [output]
      exact taken
    · obtain rfl : master.output = data := Option.some.inj (taken.symm.trans found)
      rw [config, replies]
      exact ⟨some, master, List.mem_cons_self, rfl⟩
    · rw [unconsumed, config, settled]
      rfl
  | rejected some new =>
    refine ⟨fun means => ?_, fun data found => before data (taken.symm.trans found), ?_⟩
    · rw [output, same] at means ⊢
      exact taken.trans (h.accepted means)
    · rw [unconsumed, config, settled]
      rfl

theorem Run.delivered {c : Config} {d : Device} {t : Trace} (h : Run c d t) : d.Delivered t := by
  induction h with
  | start => exact ⟨nofun, nofun, rfl⟩
  | move before last ih =>
    cases last.hands before.told before.limited with
    | closes poll link decode fits closing =>
      exact ih.closes before.validated before.told before.limited link decode fits
        last.config_eq closing
    | nothing withholds replyless =>
      exact ih.withholds (before.move last).validated last.config_eq withholds replyless

/-- What the application has taken on this link is not offered to it again. -/
theorem Run.offers_new {c : Config} {d : Device} {t m : Trace} (h : Run c d t) {data : Octets}
    {accepted : Bool} (offer : .outputOffered data accepted :: m <:+ t) :
    m.onLink.accepted ≠ some data := by
  induction h with
  | start => cases List.suffix_nil.1 offer
  | move before last ih =>
    rename_i p d u es t
    rcases suffix_append offer with earlier | ⟨m, rfl, within⟩
    · exact ih earlier
    cases last.hands before.told before.limited with
    | nothing withholds => cases withholds.offerless _ (within.subset List.mem_cons_self)
    | closes poll link decode fits closing =>
      rename_i mode frame master
      have applied := before.delivered.applied_iff before.validated (by rw [link]; rfl) data
      obtain ⟨i, j, offered, delivery⟩ := closing.delivery
      obtain ⟨mem, silent⟩ := delivery.first within
      have still : m.Lacks Event.confirmsMode := fun e later =>
        closing.unconfirming e (within.subset (List.mem_cons_of_mem _ later))
      rw [onLink_append still, accepted_append silent]
      rw [← delivery.before.1] at applied
      have delivers := delivery.delivers
      generalize offered = fs at mem delivers
      cases delivers with
      | empty => cases mem
      | unchanged => cases mem
      | applied some new =>
        cases List.mem_singleton.1 mem
        exact fun taken => new (applied.2 taken)
      | rejected some new =>
        cases List.mem_singleton.1 mem
        exact fun taken => new (applied.2 taken)

end Device

namespace Session

open Device

variable {σ : Type} {s t : Session σ} {now : Nat} {master : MasterFrame} {c : Config}

theorem offers_of_bare {es : Trace} (trace : t.env.trace.bare = es ++ s.env.trace.bare) :
    t.env.trace.offers = es.offers ++ s.env.trace.offers := by
  rw [← offers_bare, trace, offers_append, offers_bare]

variable [Transceiver σ] [Application σ]

theorem Closes.delivers (h : s.Closes now master) (run : Run c s.device s.env.trace.bare) :
    let before := s.device.images.output
    let u := (s.enterTick now).poll now
    let t := s.tick now
    (master.output ≠ [] → ¬(before.valid = true ∧ before.data = master.output) →
      ∃ accepted, t.env.trace.offers = (master.output, accepted) :: s.env.trace.offers ∧
        u.device.images.output =
          if accepted then { before with data := master.output, valid := true } else before) ∧
    (master.output = [] ∨ (before.valid = true ∧ before.data = master.output) →
      t.env.trace.offers = s.env.trace.offers ∧ u.device.images.output = before) ∧
    t.device.images.output.data = u.device.images.output.data := by
  intro before u t
  obtain ⟨mode, frame, es, closing, polled, -⟩ := h.polls
  obtain ⟨fs, withholds, still, trace⟩ := h.withholds run
  obtain ⟨i, j, offered, delivery⟩ := closing.delivery
  have told : t.env.trace.offers = offered.offers ++ s.env.trace.offers := by
    have whole : t.env.trace.bare = (fs ++ (es ++ [.ticked now])) ++ s.env.trace.bare := by
      rw [trace, polled]
      simp
    rw [offers_of_bare whole, offers_append, offers_append, delivery.offers_eq,
      offers_eq_nil withholds.offerless]
    exact congrArg (· ++ _) (List.append_nil _)
  obtain ⟨delivers, ⟨same, -⟩, ⟨output, -⟩, -⟩ := delivery
  have same : i.output = before := same
  refine ⟨fun some new => ?_, fun old => ?_, withholds.data still⟩
  · rw [← same] at new
    cases delivers with
    | empty empty => exact absurd empty some
    | unchanged some unchanged => exact absurd unchanged new
    | applied => exact ⟨true, told, by rw [output, ← same]; rfl⟩
    | rejected => exact ⟨false, told, by rw [output, ← same]; rfl⟩
  · rw [← same] at old
    cases delivers with
    | empty => exact ⟨told, output.trans same⟩
    | unchanged => exact ⟨told, output.trans same⟩
    | applied some new => exact absurd old (not_or.2 ⟨some, new⟩)
    | rejected some new => exact absurd old (not_or.2 ⟨some, new⟩)

/-- In every run a valid exchange with output data offers them to the application once, unless the
output image is valid and holds just these data. What the application takes is then in the image,
and valid; what it refuses leaves the image as it was. Without output data nothing is offered, nor
by anything but a valid exchange, and then the contents of the image stay unless a mode is
confirmed. So while the image is valid it holds what was taken last, what was taken is not offered
again on the same link, and on a new link the first output data are. The data refused last are kept
until others are offered, or those that are applied come again. -/
theorem Reach.output_delivery (h : Reach s) :
    let c := s.device.config
    let before := s.device.images.output
    (∀ now master, s.Closes now master →
      let u := (s.enterTick now).poll now
      let t := s.tick now
      (master.output ≠ [] → ¬(before.valid = true ∧ before.data = master.output) →
        ∃ accepted, t.env.trace.offers = (master.output, accepted) :: s.env.trace.offers ∧
          u.device.images.output =
            if accepted then { before with data := master.output, valid := true } else before) ∧
      (master.output = [] ∨ (before.valid = true ∧ before.data = master.output) →
        t.env.trace.offers = s.env.trace.offers ∧ u.device.images.output = before) ∧
      t.device.images.output.data = u.device.images.output.data) ∧
    (∀ now, (∀ master, ¬s.Closes now master) →
      (s.tick now).env.trace.offers = s.env.trace.offers ∧
      (s.device.link.isSwitching = false →
        (s.tick now).device.images.output.data = before.data)) ∧
    (∀ r : Request, r.kind ≠ .access →
      (s.submit r).2.env.trace.offers = s.env.trace.offers ∧
      (s.submit r).2.device.images.output.data = before.data) ∧
    (before.valid = true → s.env.trace.accepted = some before.data) ∧
    (∀ (between earlier : Trace) d₁ d₂ accepted,
      .outputOffered d₂ accepted :: (between ++ .outputOffered d₁ true :: earlier) <:+
        s.env.trace →
      between.accepted = none → between.Lacks Event.confirmsMode → d₁ ≠ d₂) ∧
    (∀ now master, s.Closes now master → master.output ≠ [] →
      (∀ m ∈ s.env.trace.replies c, m.output = []) →
      ∃ accepted, (s.tick now).env.trace.offers =
        (master.output, accepted) :: s.env.trace.offers) ∧
    ∀ data, s.device.images.unconsumed = some data ↔
      ∃ later earlier : Trace, s.env.trace = later ++ .outputOffered data false :: earlier ∧
        later.Lacks Event.offersOutput ∧
        later.Without (Event.repeats c) (.outputOffered data false :: earlier) := by
  intro c before
  obtain ⟨c', -, run⟩ := h.run
  have config : s.device.config = c' := run.config_eq
  have delivered := run.delivered
  refine ⟨fun now master closes => closes.delivers run, fun now none => ?_, fun r own => ?_,
    fun valid => ?_, fun between earlier d₁ d₂ a offer fresh still => ?_,
    fun now master closes some first => ?_, fun data => ?_⟩
  · obtain ⟨new, trace, withholds, still⟩ := withholds_tick run none
    refine ⟨?_, fun steady => withholds.data (still steady)⟩
    rw [offers_of_bare trace, offers_eq_nil withholds.offerless]
    rfl
  · obtain ⟨new, trace, withholds, still⟩ := withholds_submit run own
    refine ⟨?_, withholds.data still⟩
    rw [offers_of_bare trace, offers_eq_nil withholds.offerless]
    rfl
  · rw [← accepted_bare]
    exact accepted_of_onLink (delivered.accepted valid)
  · have other := run.offers_new (suffix_bare rfl offer)
    rw [onLink_bare, accepted_bare, onLink_append still, accepted, List.findSome?_append] at other
    rw [accepted] at fresh
    rw [fresh, onLink_cons rfl] at other
    exact fun same => other (congrArg some same)
  · have new : ¬(before.valid = true ∧ before.data = master.output) := by
      rintro ⟨valid, same⟩
      obtain ⟨-, m, mem, brought⟩ := delivered.replied _ (delivered.accepted valid)
      rw [replies_bare] at mem
      exact some (same.symm.trans (brought.symm.trans (first m mem)))
    obtain ⟨accepted, offered, -⟩ := (closes.delivers run).1 some new
    exact ⟨accepted, offered⟩
  · rw [delivered.unconsumed, unconsumed_bare, unconsumed_eq_some_iff]

/-- The application refuses the first output data on a link. They are kept, but not in the image. -/
theorem output_delivery_refused :
    let reply : MasterFrame := ⟨none, none, [5, 6]⟩
    let s := Bench.linked.mapHost fun b =>
      { wire := { b.wire with queue := [.transferComplete reply.encode] }
        program := { b.program with acceptOutput := false } }
    Reach s ∧ s.Closes 3000 reply ∧
      (s.tick 3000).env.trace.offers = ([5, 6], false) :: s.env.trace.offers ∧
      ((s.enterTick 3000).poll 3000).device.images.output = s.device.images.output ∧
      ∃ later earlier : Trace,
        (s.tick 3000).env.trace = later ++ .outputOffered [5, 6] false :: earlier ∧
          later.Lacks Event.offersOutput := by
  intro reply s
  have reach : Reach s := Bench.reach_linked.step (.mapHost ..)
  have link : s.device.link = .transferring .com1 := by decide +kernel
  have report : (s.tick 3000).env.trace.indication = some (.transferComplete reply.encode) := by
    decide +kernel
  have closes : s.Closes 3000 reply :=
    .valid link report (by decide +kernel) (by decide +kernel)
  have new : ¬(s.device.images.output.valid = true ∧
      s.device.images.output.data = reply.output) := by decide +kernel
  have latest : (s.tick 3000).env.trace.offers.head? = some ([5, 6], false) := by decide +kernel
  have refused : (s.tick 3000).device.images.unconsumed = some [5, 6] := by decide +kernel
  obtain ⟨exchange, -⟩ := reach.output_delivery
  obtain ⟨accepted, offers, image⟩ := (exchange 3000 reply closes).1 (by decide) new
  rw [offers] at latest
  obtain rfl : accepted = false := congrArg Prod.snd (Option.some.inj latest)
  obtain ⟨-, -, -, -, -, -, kept⟩ := (reach.tick 3000).output_delivery
  obtain ⟨later, earlier, whole, silent, -⟩ := (kept [5, 6]).1 refused
  exact ⟨reach, closes, offers, image, later, earlier, whole, silent⟩

end Session

end Sdci
