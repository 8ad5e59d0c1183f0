import Sdci.Proofs.Validity
import Sdci.Proofs.WellFormed

/-! # The input image is the last confirmed update

New input data travel before they are stored: they become the input image when the master has
answered the frame that carried them, and until then the image is what it was. So the image can be
read off the history, and it is what the master is sent in every frame without a request.

* `Trace.update`: the input data that were asked for last.
* `Trace.image`: the input image after a history.
* `Trace.lastSent`: the process data that the transceiver took last.
* `Device.Run.image_eq`, `Device.Run.lastSent_eq`: the device agrees with both.
* `Session.Reach.input_image_confirmed`: all of it in every run.
-/

namespace Sdci
set_option autoImplicit false

/-! ## Input data in a history -/

/-- The input data that a request asks for. -/
def Request.input? : Request → Option Octets
  | ⟨.input, data⟩ => some data
  | _ => none

namespace Event

/-- What a granted request asks for. -/
def update? : Event → Option Octets
  | requested r (.ok _) => r.input?
  | _ => none

/-- New input data are confirmed with success. -/
def storesInput : Event → Bool
  | confirmed .input (.ok _) _ => true
  | _ => false

/-- The input image changes: new data are confirmed, or a mode is. -/
def setsImage (e : Event) : Bool := e.storesInput || e.confirmsMode

/-- The process data of a frame that the transceiver takes. -/
def processData? : Event → Option Octets
  | transferred frame true =>
    match DeviceFrame.decode frame with
    | .ok x => x.processData?
    | .error _ => none
  | _ => none

/-- The device takes on a request, or the transceiver a frame. -/
def takesOn : Event → Bool
  | requested _ (.ok _) => true
  | transferred _ true => true
  | _ => false

theorem update?_eq_none {e : Event} (h : e.takesOn = false) : e.update? = none := by
  unfold update?
  split
  · cases h
  · rfl

theorem processData?_eq_none {e : Event} (h : e.takesOn = false) : e.processData? = none := by
  unfold processData?
  split
  · cases h
  · rfl

theorem processData?_transferred (x : DeviceFrame) :
    (transferred x.encode true).processData? = x.processData? := by
  rw [processData?, DeviceFrame.decode_encode]

theorem takesOn_eq_false_of_isRemark {e : Event} (remark : e.isRemark = true) :
    e.takesOn = false := by
  cases e <;> first | rfl | cases remark

theorem setsImage_eq_false {e : Event} (h : e.setsImage = false) :
    e.storesInput = false ∧ e.confirmsMode = false :=
  Bool.or_eq_false_iff.1 h

theorem storesInput_confirmed {kind : Service} (other : kind ≠ .input) (outcome : Outcome)
    (a : Bool) : (confirmed kind outcome a).storesInput = false := by
  cases kind <;> first | rfl | exact absurd rfl other

end Event

namespace Trace

/-- The input data that were asked for last. A request that is fulfilled is the latest one, because
no other can be made while it is open. -/
def update (t : Trace) : Option Octets := t.findSome? Event.update?

/-- The input image after a history: the data of the last update that was confirmed with success,
cut to what a link may carry whenever a mode was confirmed since. -/
def image (c : Config) : Trace → Octets
  | [] => []
  | e :: t =>
    if e.storesInput then (update t).getD []
    else e.confirmedMode?.elim (image c t) fun mode =>
      (image c t).take (c.inputLimit mode (com c.com t))

/-- The process data that the transceiver took last. -/
def lastSent (t : Trace) : Octets := (t.findSome? Event.processData?).getD []

variable {c : Config} {es : Trace}

theorem update_bare (t : Trace) : update (bare t) = update t :=
  findSome_bare_of (fun _ remark =>
    Event.update?_eq_none (Event.takesOn_eq_false_of_isRemark remark)) t

theorem lastSent_bare (t : Trace) : lastSent (bare t) = lastSent t :=
  congrArg (·.getD []) (findSome_bare_of (fun _ remark =>
    Event.processData?_eq_none (Event.takesOn_eq_false_of_isRemark remark)) t)

theorem update_append (lacks : es.Lacks Event.takesOn) (t : Trace) :
    update (es ++ t) = update t :=
  findSome_append (fun e mem => Event.update?_eq_none (lacks e mem)) t

theorem lastSent_append (lacks : es.Lacks Event.takesOn) (t : Trace) :
    lastSent (es ++ t) = lastSent t :=
  congrArg (·.getD []) (findSome_append (fun e mem => Event.processData?_eq_none (lacks e mem)) t)

theorem Upcalls.takeless (h : es.Upcalls) : es.Lacks Event.takesOn :=
  h.lacks fun e upcall => by cases e <;> first | rfl | cases upcall

theorem image_append (still : es.Lacks Event.setsImage) (t : Trace) :
    image c (es ++ t) = image c t := by
  induction es with
  | nil => rfl
  | cons e es ih =>
    obtain ⟨first, rest⟩ := lacks_cons.1 still
    obtain ⟨unstored, unconfirmed⟩ := Event.setsImage_eq_false first
    rw [List.cons_append, image, unstored, Event.confirmedMode?_eq_none unconfirmed]
    exact ih rest

theorem image_bare (t : Trace) : image c (bare t) = image c t := by
  induction t with
  | nil => rfl
  | cons e t ih =>
    cases remark : e.isRemark with
    | true =>
      have silent : e.setsImage = false := by cases e <;> first | rfl | cases remark
      have still : Lacks Event.setsImage [e] := lacks_cons.2 ⟨silent, lacks_nil⟩
      rw [bare_cons_remark remark, ih]
      exact (image_append still t).symm
    | false => rw [bare_cons remark, image, image, ih, update_bare, com_bare]

/-- While no mode is confirmed, the replies of the master are not forgotten. -/
theorem replies_append_ne_nil (still : es.Lacks Event.confirmsMode) {t : Trace}
    (some : replies c t ≠ []) : replies c (es ++ t) ≠ [] := by
  induction es with
  | nil => exact some
  | cons e es ih =>
    obtain ⟨first, rest⟩ := lacks_cons.1 still
    rw [List.cons_append, replies, first]
    exact List.append_ne_nil_of_right_ne_nil _ (ih rest)

end Trace

open Trace

theorem Confirms.steady {cause : Failure} {ks : List Service} {es : Trace}
    (h : Confirms (.error cause) ks es) : es.Lacks Event.setsImage := by
  intro e mem
  obtain ⟨kind, _, rfl⟩ := h.mem mem
  cases kind <;> rfl

theorem Confirms.steady_mode {outcome : Outcome} {slots : Slots} {es : Trace}
    (h : Confirms outcome (slots.among [.setMode]) es) : es.Lacks Event.setsImage := by
  rw [Slots.among_single] at h
  split at h
  · obtain ⟨a, rfl⟩ := h.single
    exact lacks_cons.2 ⟨rfl, lacks_nil⟩
  · cases h
    exact lacks_nil

namespace Device

/-! ## What a device takes on -/

/-- A device takes on requests when they are granted, and frames when the transceiver takes them. -/
theorem Move.takesOn {p : Phase} {d u : Device} {es : Trace} (h : Move p d es u) :
    (es.Lacks Event.takesOn ∧ u.cycles.lastSent = d.cycles.lastSent) ∨
      (∃ r, es = [.requested r (.ok ())] ∧
        u = { d with slots := d.slots.place r d.lastTick }) ∨
      ∃ mode out, es = [.linkEvent d.link .transferAccepted,
        .transferred out.frame.encode true] ∧ u = d.launched mode out := by
  cases h with
  | grant own granted => exact .inr (.inl ⟨_, rfl, rfl⟩)
  | launch unhurried link chosen => exact .inr (.inr ⟨_, _, rfl, rfl⟩)
  | establish link requested lost done =>
    exact .inl ⟨by simp [done.upcalls.takeless, lost.upcalls.takeless, Event.takesOn], rfl⟩
  | exchange link decode fits settles delivers signals serves =>
    rename_i v mode frame master i₁ i₂ slots es₁ es₂ es₃ es₄
    refine .inl ⟨?_, ?_⟩
    · simp [serves.upcalls.takeless, signals.upcalls.takeless, delivers.upcalls.takeless,
        settles.upcalls.takeless, Event.takesOn]
    · rw [settles.eq]
      rfl
  | retry link mishap => exact .inl ⟨by cases mishap <;> simp [Event.takesOn], rfl⟩
  | exhaust link mishap left failed =>
    exact .inl ⟨by cases mishap <;> simp [failed.upcalls.takeless, Event.takesOn], rfl⟩
  | fault fatal failed =>
    exact .inl ⟨by cases fatal <;> simp [failed.upcalls.takeless, Event.takesOn], rfl⟩
  | switch quiet idle pending failed =>
    exact .inl ⟨by simp [failed.upcalls.takeless, Event.takesOn], rfl⟩
  | refuseMode a quiet idle pending failed =>
    exact .inl ⟨by simp [failed.upcalls.takeless, Event.takesOn], rfl⟩
  | _ => exact .inl ⟨by simp [Event.takesOn], rfl⟩

/-- The input data that a device is to send are those that were asked for last. -/
theorem Run.update_eq {c : Config} {d : Device} {t : Trace} (h : Run c d t) {data : Octets}
    (ticket : d.slots.request? .input = some ⟨.input, data⟩) : t.update = some data := by
  induction h generalizing data with
  | start => cases ticket
  | move before last ih =>
    rename_i p d u es t
    -- What is open after a move was open before it, or is what the move granted.
    rcases last.request?_of_open ticket nofun with still | ⟨-, rfl⟩
    · rcases last.takesOn with ⟨lacks, -⟩ | ⟨r, rfl, rfl⟩ | ⟨mode, out, rfl, rfl⟩
      · rw [update_append lacks]
        exact ih still
      · obtain ⟨kind, content⟩ := r
        cases kind with
        | input =>
          cases ticket
          rfl
        | _ => exact ih still
      · exact ih still
    · rfl

theorem Run.lastSent_eq {c : Config} {d : Device} {t : Trace} (h : Run c d t) :
    d.cycles.lastSent = t.lastSent := by
  induction h with
  | start => rfl
  | move before last ih =>
    rename_i p d u es t
    rcases last.takesOn with ⟨lacks, same⟩ | ⟨r, rfl, rfl⟩ | ⟨mode, out, rfl, rfl⟩
    · rw [lastSent_append lacks, same, ih]
    · exact ih
    · change (d.cycles.sent out.frame.processData?).lastSent = _
      rw [List.cons_append, List.singleton_append, lastSent, List.findSome?_cons,
        List.findSome?_cons, Event.processData?_transferred]
      cases out.frame.processData? with
      | some data => rfl
      | none => exact ih

/-! ## The image -/

theorem steady_of_lacks {es : Trace} (unstored : es.Lacks Event.storesInput)
    (unconfirmed : es.Lacks Event.confirmsMode) : es.Lacks Event.setsImage :=
  fun e mem => by rw [Event.setsImage, unstored e mem, unconfirmed e mem]; rfl

/-- A settled exchange leaves the input data as they are, unless new ones rode on its frame. -/
theorem data_of_settles {d v : Device} {es : Trace} (settles : Settles d es v)
    (other : d.riding ≠ some .input) :
    v.images.input.data = d.images.input.data ∧ es.Lacks Event.storesInput := by
  cases settles with
  | cyclic => exact ⟨rfl, lacks_nil⟩
  | stray => exact ⟨rfl, lacks_nil⟩
  | carried a rides ticket =>
    obtain rfl := Slots.kind_of_request? ticket
    rename_i request
    obtain ⟨kind, content⟩ := request
    cases kind with
    | input => exact absurd rides other
    | _ => exact ⟨rfl, lacks_cons.2 ⟨rfl, lacks_nil⟩⟩

/-- What the new data that rode on an answered frame leave behind. -/
theorem stored_of_settles {d v : Device} {es : Trace} {data : Octets} (settles : Settles d es v)
    (rides : d.riding = some .input) (ticket : d.slots.request? .input = some ⟨.input, data⟩)
    (fits : data.length ≤ d.images.input.maxLength) :
    v.images.input.data = data ∧ ∃ a, es = [.confirmed .input (.ok none) a] := by
  refine ⟨?_, ?_⟩
  · rw [input_of_settles settles rides ticket fits]
  · cases settles with
    | cyclic none => cases none.symm.trans rides
    | stray some closed =>
      cases some.symm.trans rides
      cases closed.symm.trans ticket
    | carried a some found =>
      cases some.symm.trans rides
      cases found.symm.trans ticket
      exact ⟨a, by rw [completion_input_ok (Image.store_eq_ok_iff.2 ⟨fits, rfl⟩)]⟩

/-- What a move does to the input data, and the events that tell of it. -/
inductive Sets (d : Device) : Trace → Octets → Prop
  | nothing {es : Trace} (steady : es.Lacks Event.setsImage) : Sets d es d.images.input.data
  /-- A confirmed mode cuts them. -/
  | cut {mode : Mode} {later : Trace} (steady : later.Lacks Event.setsImage) :
      Sets d
        (later ++ [.linkEvent d.link (.modeConfirmed mode), .polled (some (.modeSwitched mode))])
        (d.images.input.data.take (d.config.inputLimit mode d.store.com))
  /-- A valid reply to the frame that carried new ones replaces them. -/
  | stored {mode : Mode} {frame data : Octets} {master : MasterFrame} {later : Trace}
      (acknowledged : Bool) (link : d.link = .transferring mode)
      (decode : MasterFrame.decode frame = .ok master)
      (fits : master.output.length ≤ d.images.output.maxLength)
      (ticket : d.slots.request? .input = some ⟨.input, data⟩)
      (steady : later.Lacks Event.setsImage) :
      Sets d (later ++ [.confirmed .input (.ok none) acknowledged,
        .linkEvent d.link .transferSucceeded, .polled (some (.transferComplete frame))]) data

theorem Move.sets {c : Config} {p : Phase} {d u : Device} {es t : Trace} (run : Run c d t)
    (h : Move p d es u) : d.Sets es u.images.input.data := by
  cases h with
  | establish link requested lost done =>
    exact .cut (lacks_append.2 ⟨done.steady_mode, lost.steady⟩)
  | exchange link decode fits settles delivers signals serves =>
    rename_i v mode frame master i₁ i₂ slots es₁ es₂ es₃ es₄
    -- Of all that follows the report only the settled part may confirm something.
    have unstored : Trace.Lacks Event.storesInput (.cycled :: (es₄ ++ (es₃ ++ es₂))) :=
      lacks_of_unconfirmed (unconfirmed_handed delivers signals serves) fun e none => by
        cases e <;> first | rfl | cases none
    have handed : Trace.Lacks Event.setsImage (.cycled :: (es₄ ++ (es₃ ++ es₂))) :=
      steady_of_lacks unstored
        (lacks_cons.2 ⟨rfl, (serves.upcalls.append
          (signals.upcalls.append delivers.upcalls)).unconfirming⟩)
    have apart (begun : Trace) : .cycled :: (es₄ ++ (es₃ ++ (es₂ ++ (es₁ ++ begun)))) =
        .cycled :: (es₄ ++ (es₃ ++ es₂)) ++ (es₁ ++ begun) := by simp
    change d.Sets _ i₂.input.data
    rw [apart, input_of_signals signals, input_of_delivers delivers]
    by_cases rides : d.riding = some .input
    · obtain ⟨data, ticket, room⟩ := run.input_of_riding rides
      obtain ⟨same, a, rfl⟩ := stored_of_settles settles rides ticket room
      rw [same]
      exact .stored a link decode fits ticket handed
    · obtain ⟨same, unstored⟩ := data_of_settles settles rides
      have steady := steady_of_lacks unstored settles.upcalls.unconfirming
      rw [same]
      refine .nothing (lacks_append.2 ⟨handed, lacks_append.2 ⟨steady, ?_⟩⟩)
      simp [Event.setsImage, Event.storesInput]
  | retry link mishap =>
    exact .nothing (by cases mishap <;> simp [Event.setsImage, Event.storesInput])
  | exhaust link mishap left failed =>
    exact .nothing (by cases mishap <;> simp [failed.steady, Event.setsImage, Event.storesInput])
  | fault fatal failed =>
    exact .nothing (by cases fatal <;> simp [failed.steady, Event.setsImage, Event.storesInput])
  | switch quiet idle pending failed =>
    exact .nothing (by simp [failed.steady, Event.setsImage, Event.storesInput])
  | refuseMode a quiet idle pending failed =>
    exact .nothing (by simp [failed.steady, Event.setsImage, Event.storesInput])
  | serve a unhurried link next =>
    rename_i request
    have other : request.kind ≠ .input := by
      intro same
      have mem := (Slots.request?_of_nextOutOfCycle next).1
      rw [same] at mem
      exact absurd mem (by decide)
    exact .nothing (by simp [Event.setsImage, Event.storesInput_confirmed other])
  | _ => exact .nothing (by simp [Event.setsImage, Event.storesInput])

theorem Run.image_eq {c : Config} {d : Device} {t : Trace} (h : Run c d t) :
    d.images.input.data = t.image d.config := by
  induction h with
  | start => rfl
  | move before last ih =>
    rename_i p d u es t
    have sets := last.sets before
    have config := last.config_eq
    generalize u.images.input.data = data at sets
    rw [config]
    cases sets with
    | nothing steady => rw [image_append steady, ih]
    | cut steady =>
      rename_i mode later
      rw [List.append_assoc, image_append steady, ih, before.governed.stored]
      rfl
    | stored a link decode fits ticket steady =>
      -- The open request was not made after its confirmation, so its data are the last asked for.
      rw [List.append_assoc, image_append steady]
      change data = (t.update).getD []
      rw [before.update_eq ticket]
      rfl

/-- Input data that a move confirms were open, and the master has just answered. -/
theorem Sets.confirmed {d : Device} {es m : Trace} {data : Octets} (h : d.Sets es data) {e : Event}
    (within : e :: m <:+ es) (stores : e.storesInput = true) :
    d.slots.request? .input = some ⟨.input, data⟩ ∧
      ∃ mode frame master, d.link = .transferring mode ∧ MasterFrame.decode frame = .ok master ∧
        master.output.length ≤ d.images.output.maxLength ∧
        m = [.linkEvent d.link .transferSucceeded, .polled (some (.transferComplete frame))] := by
  have earlier {later begun : Trace} (steady : later.Lacks Event.setsImage)
      (within : e :: m <:+ later ++ begun) : e :: m <:+ begun := by
    rcases suffix_append within with begun | ⟨_, -, inside⟩
    · exact begun
    · have silent := steady e (inside.subset List.mem_cons_self)
      cases (Event.setsImage_eq_false silent).1.symm.trans stores
  cases h with
  | nothing steady =>
    rw [← List.append_nil es] at within
    cases List.suffix_nil.1 (earlier steady within)
  | cut steady =>
    have mem := (earlier steady within).subset List.mem_cons_self
    rcases List.mem_pair.1 mem with rfl | rfl <;> cases stores
  | stored a link decode fits ticket steady =>
    rcases List.suffix_cons_iff.1 (earlier steady within) with whole | older
    · exact ⟨ticket, _, _, _, link, decode, fits, (List.cons.inj whole).2⟩
    · rcases List.mem_pair.1 (older.subset List.mem_cons_self) with rfl | rfl <;> cases stores

/-- Before new input data were confirmed with success they were asked for, and the master answered
on the same link. -/
theorem Run.confirmed_input {c : Config} {d : Device} {t before : Trace} (h : Run c d t)
    {e : Event} (latest : e :: before <:+ t) (stores : e.storesInput = true) :
    (∃ data, before.update = some data) ∧ before.replies c ≠ [] := by
  induction h with
  | start => cases List.suffix_nil.1 latest
  | move run last ih =>
    rename_i p d u es t
    rcases suffix_append latest with earlier | ⟨m, rfl, within⟩
    · exact ih earlier
    · obtain ⟨ticket, mode, frame, master, link, decode, fits, rfl⟩ :=
        (last.sets run).confirmed within stores
      refine ⟨⟨_, run.update_eq ticket⟩, ?_⟩
      have reply := reply_of_transferring run.told run.limited link decode fits
      rw [← run.config_eq]
      change Trace.replies d.config (.polled (some (.transferComplete frame)) :: t) ≠ []
      rw [Trace.replies, reply]
      exact List.cons_ne_nil _ _

/-- Since the last update was confirmed the image holds its data, and they are valid while the link
is up. -/
theorem Run.image_of_confirmed {c : Config} {d : Device} {later earlier : Trace} {e : Event}
    (h : Run c d (later ++ e :: earlier)) (stores : e.storesInput = true)
    (still : later.Lacks Event.setsImage) (up : d.link.mode?.isSome) :
    earlier.update = some d.images.input.data ∧ d.images.input.valid = true := by
  obtain ⟨⟨data, update⟩, answered⟩ := h.confirmed_input (List.suffix_append ..) stores
  have silent : e.confirmsMode = false := by cases e <;> first | rfl | cases stores
  have noReply : e.reply? d.config earlier = none := by cases e <;> first | rfl | cases stores
  constructor
  · rw [h.image_eq, image_append still, image, if_pos stores, update]
    rfl
  · refine h.validated.input.2 ⟨up, replies_append_ne_nil ?_ ?_⟩
    · exact fun x mem => (Event.setsImage_eq_false (still x mem)).2
    · rw [replies_cons silent noReply, h.config_eq]
      exact answered

end Device

namespace Session

open Device

variable {σ : Type} [Transceiver σ] [Application σ] {s : Session σ}

/-- In every run the input image is what the history makes it: the data of the last update that was
confirmed with success, cut to what a link may carry by each mode confirmed since. No step changes
it that confirms neither an update with success nor a mode. What the device reports as sent last are
the process data that the transceiver took last. Each frame without a request has the image of that
moment, and with an update confirmed on the link it has the data of that update and says that they
are valid. -/
theorem Reach.input_image_confirmed (h : Reach s) :
    let c := s.device.config
    s.device.images.input.data = s.env.trace.image c ∧
    (∀ t, Step s t → ∃ new, t.env.trace.bare = new ++ s.env.trace.bare ∧
      (new.Lacks Event.setsImage → t.device.images.input.data = s.device.images.input.data)) ∧
    s.device.cycles.lastSent = s.env.trace.lastSent ∧
    ∀ now frame accepted,
      (s.tick now).env.trace.calls = .transferred frame accepted :: s.env.trace.calls →
      let t := (s.prepare now).env.trace
      ∃ out, (s.prepare now).device.Chooses out ∧ frame = out.frame.encode ∧
        (out.carries = none →
          (∃ valid, DeviceFrame.decode frame = .ok (.processData valid (t.image c))) ∧
          ∀ (later : Trace) e (earlier : Trace), t = later ++ e :: earlier →
            e.storesInput = true → later.Lacks Event.setsImage →
            ∃ data, earlier.update = some data ∧
              DeviceFrame.decode frame = .ok (.processData true data)) := by
  intro c
  obtain ⟨c', -, run⟩ := h.run
  refine ⟨?_, fun t next => ?_, ?_, fun now frame accepted call => ?_⟩
  · rw [run.image_eq, image_bare]
  · have run' := run_step next run
    obtain ⟨new, trace⟩ := next.suffix
    refine ⟨new, trace.symm, fun still => ?_⟩
    rw [run'.image_eq, run.image_eq, ← trace, image_append still, run'.config_eq, run.config_eq]
  · rw [run.lastSent_eq, lastSent_bare]
  · obtain ⟨mode, out, link, chosen, rfl⟩ := chooses_of_call run call
    have run' := run_prepare run now
    have config : (s.prepare now).device.config = c := run'.config_eq.trans run.config_eq.symm
    refine ⟨out, chosen, rfl, fun riderless => ?_⟩
    -- A frame without a request that is kept for another attempt still has the present image.
    cases run'.suits chosen with
    | cyclic =>
      refine ⟨⟨(s.prepare now).device.images.input.valid, ?_⟩,
        fun later e earlier whole stores still => ?_⟩
      · rw [DeviceFrame.decode_encode, run'.image_eq, image_bare, config]
      · have kept : e.isRemark = false := by cases e <;> first | rfl | cases stores
        have bare : (s.prepare now).env.trace.bare = later.bare ++ e :: earlier.bare := by
          rw [whole, Trace.bare, List.filter_append, ← bare_cons kept]
          rfl
        rw [bare] at run'
        obtain ⟨update, valid⟩ := run'.image_of_confirmed stores
          (fun x mem => still x (List.mem_filter.1 mem).1) (by rw [link]; rfl)
        refine ⟨_, (update_bare earlier).symm.trans update, ?_⟩
        rw [DeviceFrame.decode_encode, valid]
    | input => cases riderless
    | service => cases riderless

/-- Input data that the master has confirmed are sent again when no request waits. -/
theorem input_image_confirmed_again :
    let s := Bench.exchanging.tick 4000
    let next := (DeviceFrame.processData true [1, 2]).encode
    Reach s ∧ s.device.images.input.data = [1, 2] ∧
      (∃ accepted,
        (s.tick 5000).env.trace.calls = .transferred next accepted :: s.env.trace.calls) ∧
      ∃ (later : Trace) (e : Event) (earlier : Trace),
        (s.prepare 5000).env.trace = later ++ e :: earlier ∧ e.storesInput = true ∧
          later.Lacks Event.setsImage ∧ earlier.update = some [1, 2] := by
  intro s next
  have reach : Reach s := Bench.reach_exchanging.tick 4000
  obtain ⟨_, -, run⟩ := reach.run
  obtain ⟨accepted, call⟩ := exists_call run 5000 next (by decide +kernel) (by decide +kernel)
  have latest : ((s.prepare 5000).env.trace.find? Event.setsImage).map Event.storesInput =
      some true := by decide +kernel
  obtain ⟨e, found, stores⟩ := Option.map_eq_some_iff.1 latest
  obtain ⟨-, later, earlier, whole, still⟩ := List.find?_eq_some_iff_append.1 found
  have steady : Trace.Lacks Event.setsImage later := fun x mem => by simpa using still x mem
  have image : s.env.trace.image s.device.config = [1, 2] := by decide +kernel
  have idle : (s.prepare 5000).device.slots.openKinds = [] := by decide +kernel
  obtain ⟨data, -, -, frames⟩ := reach.input_image_confirmed
  obtain ⟨out, chosen, -, cyclic⟩ := frames 5000 next accepted call
  have riderless : out.carries = none := by
    refine Option.eq_none_iff_forall_ne_some.2 fun k carries => ?_
    obtain ⟨r, request, -⟩ := (run_prepare run 5000).frame_of_chosen chosen carries
    have isOpen := mem_openKinds.2 (Slots.isOpen_of_request? request)
    rw [idle] at isOpen
    cases isOpen
  obtain ⟨updated, update, decode⟩ := (cyclic riderless).2 later e earlier whole stores steady
  rw [DeviceFrame.decode_encode] at decode
  obtain ⟨-, rfl⟩ := DeviceFrame.processData.inj (Except.ok.inj decode)
  exact ⟨reach, data.trans image, ⟨accepted, call⟩, later, e, earlier, whole, stores, steady,
    update⟩

end Session

end Sdci
