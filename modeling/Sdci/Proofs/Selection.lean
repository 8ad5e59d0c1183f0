import Sdci.Proofs.Handing
import Sdci.Proofs.Ledger

/-! # The frame of the next exchange

On a link that is up, a tick has one thing to do: to offer one frame. Which one follows from the
frame in flight and the requests that are open. The device looks for requests that do not ride on a
frame yet, and this comes to the same, because none rides unless a frame is kept.

* `Device.Selects`: the rule, by the requests that are open.
* `Device.Booked.selects_iff`: the device chooses by it.
* `Device.Sends`: a device whose frame the transceiver has taken.
* `Device.Exchanges`, `Session.exchanges_tick`: what a tick makes of the choice.
* `Session.Reach.frame_selected`: all of it in every run.
-/

namespace Sdci
set_option autoImplicit false

/-! ## Open requests that wait -/

namespace Slots

variable {s : Slots} {k : Service}

theorem pending_eq_none (closed : s.isOpen k = false) : s.pending k = none := by
  refine Option.eq_none_iff_forall_ne_some.2 fun t waits => ?_
  cases closed.symm.trans (isOpen_of_pending waits)

theorem exists_pending_of_request? {r : Request} (waits : s.isDispatched k = false)
    (request : s.request? k = some r) : ∃ t, s.pending k = some t ∧ r = ⟨k, t.payload⟩ := by
  obtain ⟨t, get, rfl⟩ := Option.map_eq_some_iff.1 request
  exact ⟨t, (pending_eq_get waits).trans get, rfl⟩

theorem nextOutOfCycle_eq (waits : ∀ j, s.isDispatched j = false) :
    s.nextOutOfCycle = Service.outOfCycle.findSome? s.request? :=
  congrArg (List.findSome? · Service.outOfCycle)
    (funext fun j => pendingRequest_eq (waits j))

theorem request?_eq_none_iff : s.request? k = none ↔ s.isOpen k = false := by
  refine ⟨isOpen_eq_false_of_request?, fun closed => ?_⟩
  refine Option.eq_none_iff_forall_ne_some.2 fun r request => ?_
  cases closed.symm.trans (isOpen_of_request? request)

end Slots

/-- The frame to be offered, if there is one. -/
def Choice.frame? : Choice → Option InFlight
  | again out | fresh out => some out
  | tooLong _ _ => none

theorem Choice.frame?_eq_some_iff {c : Choice} {out : InFlight} :
    c.frame? = some out ↔ c = .again out ∨ c = .fresh out := by
  cases c <;> simp [frame?]

namespace Device

/-! ## The rule -/

/-- What the next exchange is to do: a frame that is kept comes first, then an input update, which
fails if it is too long, then the first open request in the order of `Service.outOfCycle`, and else
the input data as they are. -/
inductive Selects (d : Device) : Choice → Prop
  | again {kept : InFlight} (frame : d.inFlight = some kept) : Selects d (.again kept)
  | input {data : Octets} (frame : d.inFlight = none)
      (update : d.slots.request? .input = some ⟨.input, data⟩)
      (fits : data.length ≤ d.images.input.maxLength) :
      Selects d (.fresh ⟨.processData true data, some .input⟩)
  | tooLong {data : Octets} (frame : d.inFlight = none)
      (update : d.slots.request? .input = some ⟨.input, data⟩)
      (long : d.images.input.maxLength < data.length) :
      Selects d (.tooLong data.length .overflow)
  | service {before after : List Service} {k : Service} {r : Request} (frame : d.inFlight = none)
      (still : d.slots.isOpen .input = false) (order : Service.outOfCycle = before ++ k :: after)
      (closed : ∀ j ∈ before, d.slots.isOpen j = false) (first : d.slots.request? k = some r) :
      Selects d (.fresh ⟨.service k (d.payload r), some k⟩)
  | cyclic (frame : d.inFlight = none) (still : d.slots.isOpen .input = false)
      (closed : ∀ k ∈ Service.outOfCycle, d.slots.isOpen k = false) :
      Selects d (.fresh ⟨.processData d.images.input.valid d.images.input.data, none⟩)

variable {d : Device}

theorem choose_of_kept {kept : InFlight} (frame : d.inFlight = some kept) :
    d.choose = .again kept := by
  rw [choose, frame]

theorem choose_of_update {ticket : Ticket .input} (frame : d.inFlight = none)
    (waits : d.slots.pending .input = some ticket) :
    d.choose =
      if d.images.input.maxLength < ticket.payload.length then
        .tooLong ticket.payload.length .overflow
      else .fresh ⟨.processData true ticket.payload, some .input⟩ := by
  rw [choose, frame, waits]
  by_cases long : d.images.input.maxLength < ticket.payload.length <;> simp [Image.check, long]

theorem choose_of_still (frame : d.inFlight = none) (still : d.slots.isOpen .input = false) :
    d.choose = .fresh (d.slots.nextOutOfCycle.elim d.cyclicFrame d.serviceFrame) := by
  rw [choose, frame, Slots.pending_eq_none still]
  cases d.slots.nextOutOfCycle <;> rfl

theorem Booked.choose_eq (h : d.Booked) (steady : d.link.isSwitching = false) {c : Choice}
    (selected : d.Selects c) : d.choose = c := by
  have waits (frame : d.inFlight = none) : ∀ k, d.slots.isDispatched k = false :=
    h.unmarked frame steady
  cases selected with
  | again frame => exact choose_of_kept frame
  | input frame update fits =>
    obtain ⟨ticket, pending, same⟩ := Slots.exists_pending_of_request? (waits frame _) update
    cases same
    rw [choose_of_update frame pending, if_neg (Nat.not_lt.2 fits)]
  | tooLong frame update long =>
    obtain ⟨ticket, pending, same⟩ := Slots.exists_pending_of_request? (waits frame _) update
    cases same
    rw [choose_of_update frame pending, if_pos long]
  | service frame still order closed first =>
    have none : ∀ j ∈ _, d.slots.request? j = none := fun j mem =>
      Slots.request?_eq_none_iff.2 (closed j mem)
    have next := List.findSome?_eq_some_iff.2 ⟨_, _, _, order, first, none⟩
    obtain rfl := Slots.kind_of_request? first
    rw [choose_of_still frame still, Slots.nextOutOfCycle_eq (waits frame), next]
    rfl
  | cyclic frame still closed =>
    have none : Service.outOfCycle.findSome? d.slots.request? = none :=
      List.findSome?_eq_none_iff.2 fun k mem => Slots.request?_eq_none_iff.2 (closed k mem)
    rw [choose_of_still frame still, Slots.nextOutOfCycle_eq (waits frame), none]
    rfl

/-- Some case of the rule always applies. -/
theorem exists_selects (d : Device) : ∃ c, d.Selects c := by
  cases frame : d.inFlight with
  | some kept => exact ⟨_, .again frame⟩
  | none =>
    cases update : d.slots.request? .input with
    | some r =>
      obtain ⟨kind, data⟩ := r
      obtain rfl := Slots.kind_of_request? update
      rcases Nat.lt_or_ge d.images.input.maxLength data.length with long | fits
      · exact ⟨_, .tooLong frame update long⟩
      · exact ⟨_, .input frame update fits⟩
    | none =>
      have still := Slots.request?_eq_none_iff.1 update
      cases next : Service.outOfCycle.findSome? d.slots.request? with
      | some r =>
        obtain ⟨before, k, after, order, first, none⟩ := List.findSome?_eq_some_iff.1 next
        exact ⟨_, .service frame still order
          (fun j mem => Slots.request?_eq_none_iff.1 (none j mem)) first⟩
      | none =>
        have none := List.findSome?_eq_none_iff.1 next
        exact ⟨_, .cyclic frame still fun k mem => Slots.request?_eq_none_iff.1 (none k mem)⟩

theorem Booked.selects_iff (h : d.Booked) (steady : d.link.isSwitching = false) {c : Choice} :
    d.Selects c ↔ c = d.choose := by
  refine ⟨fun selected => (h.choose_eq steady selected).symm, ?_⟩
  rintro rfl
  obtain ⟨c, selected⟩ := d.exists_selects
  rwa [h.choose_eq steady selected]

/-! ## What becomes of the choice -/

/-- A frame is on the line: the link is in an exchange, and the frame is kept until it is answered.
No request is marked but the one that it carries, and the record of the process data sent follows
it. -/
structure Sends (d : Device) (mode : Mode) (out : InFlight) (u : Device) : Prop where
  link : u.link = .transferring mode
  frame : u.inFlight = some out
  requests : ∀ k, u.slots.request? k = d.slots.request? k
  marked : ∀ k, u.slots.isDispatched k = true ↔ out.carries = some k
  record : u.cycles =
    { d.cycles with lastSent := out.frame.processData?.getD d.cycles.lastSent }

/-- The work on a link that is up, with what it enters into the trace: a frame is offered, and taken
or refused, or an input update fails. -/
inductive Exchanges (d : Device) (mode : Mode) : Trace → Device → Prop
  | taken {out : InFlight} (chosen : d.Chooses out) :
      Exchanges d mode [.linkEvent d.link .transferAccepted, .transferred out.frame.encode true]
        (d.launched mode out)
  | refused {out : InFlight} (chosen : d.Chooses out) :
      Exchanges d mode [.transferred out.frame.encode false] d
  | dropped {length : Nat} {cause : Failure} (acknowledged : Bool)
      (long : d.choose = .tooLong length cause) :
      Exchanges d mode [.confirmed .input (.error cause) acknowledged]
        { d with slots := d.slots.close .input }

theorem chooses_iff {out : InFlight} : d.Chooses out ↔ d.choose.frame? = some out :=
  Choice.frame?_eq_some_iff.symm

namespace Exchanges

variable {mode : Mode} {es : Trace} {u : Device}

/-- The frame chosen is offered. -/
theorem offers (h : d.Exchanges mode es u) {out : InFlight} (frame : d.choose.frame? = some out) :
    (es = [.linkEvent d.link .transferAccepted, .transferred out.frame.encode true] ∧
      u = d.launched mode out) ∨
    es = [.transferred out.frame.encode false] ∧ u = d := by
  have same {other : InFlight} (chosen : d.Chooses other) : other = out :=
    Option.some.inj ((chooses_iff.1 chosen).symm.trans frame)
  cases h with
  | taken chosen =>
    cases same chosen
    exact .inl ⟨rfl, rfl⟩
  | refused chosen =>
    cases same chosen
    exact .inr ⟨rfl, rfl⟩
  | dropped a long =>
    rw [long] at frame
    cases frame

/-- Without a frame an input update fails. -/
theorem drops (h : d.Exchanges mode es u) (none : d.choose.frame? = none) :
    ∃ length cause a, d.choose = .tooLong length cause ∧
      es = [.confirmed .input (.error cause) a] ∧
      u = { d with slots := d.slots.close .input } := by
  cases h with
  | taken chosen => cases none.symm.trans (chooses_iff.1 chosen)
  | refused chosen => cases none.symm.trans (chooses_iff.1 chosen)
  | dropped a long => exact ⟨_, _, a, long, rfl, rfl⟩

end Exchanges

theorem Booked.sends (h : d.Booked) {mode : Mode} {out : InFlight} (link : d.link = .active mode)
    (chosen : d.Chooses out) : d.Sends mode out (d.launched mode out) := by
  refine ⟨rfl, rfl, fun k => ?_, fun k => ?_, ?_⟩
  · rw [slots_launched]
    cases out.carries with
    | none => rfl
    | some kind => exact Slots.request?_mark ..
  · have rides : (d.launched mode out).riding = out.carries := rfl
    have steady : (d.launched mode out).link.isSwitching = false := rfl
    have marks := (h.launched link chosen).marks k
    rw [rides, steady] at marks
    simpa using marks
  · obtain ⟨frame, carries⟩ := out
    cases frame <;> rfl

theorem Move.exchanges {u : Device} {es : Trace} {mode : Mode} (h : Move .work d es u)
    (link : d.link = .active mode) (settled : d.slots.pending .setMode = none)
    (answered : d.slots.isOpen .getMode = false) : d.Exchanges mode es u := by
  cases h with
  | retry _ mishap => cases mishap
  | exhaust _ mishap => cases mishap
  | fault fatal => cases fatal
  | answerMode a quiet pending => cases answered.symm.trans (Slots.isOpen_of_isPending pending)
  | switch quiet idle pending => cases settled.symm.trans pending
  | refuseMode a quiet idle pending => cases settled.symm.trans pending
  | serve a unhurried other => cases link.symm.trans other
  | drop a unhurried other long => exact .dropped a long
  | launch unhurried other chosen =>
    cases link.symm.trans other
    exact .taken chosen
  | busy unhurried other chosen => exact .refused chosen

end Device

namespace Session

open Device Trace

variable {σ : Type} {s : Session σ}

theorem pending_setMode_of_unasked (unasked : .setMode ∉ s.outstanding) :
    s.device.slots.pending .setMode = none :=
  Slots.pending_eq_none (Bool.eq_false_iff.2 (mt mem_outstanding.2 unasked))

variable [Transceiver σ] [Application σ] {now : Nat} {mode : Mode}

theorem tick_eq_exchange (up : (s.prepare now).device.link = .active mode)
    (settled : (s.prepare now).device.slots.pending .setMode = none) :
    s.tick now = (s.prepare now).exchange now := by
  have works := s.works_tick now
  rw [lastTick_prepare] at works
  generalize s.tick now = t at works
  cases works with
  | switch idle pending => cases settled.symm.trans pending
  | serve link => cases up.symm.trans link
  | exchange link settled => rfl
  | rest idle =>
    obtain ⟨fault, -⟩ := idle (by rw [up]; rfl)
    cases up.symm.trans fault

theorem exchanges_tick {c : Config} (run : Run c s.device s.env.trace.bare)
    (up : (s.prepare now).device.link = .active mode)
    (settled : (s.prepare now).device.slots.pending .setMode = none) :
    ∃ es, (s.tick now).env.trace.bare = es ++ (s.prepare now).env.trace.bare ∧
      (s.prepare now).device.Exchanges mode es (s.tick now).device := by
  obtain ⟨es, trace, move⟩ := makes_exchange ⟨s.quiet_prepare now, settled⟩ up
  rw [lastTick_prepare, ← tick_eq_exchange up settled] at trace move
  have answered := isOpen_getMode_serveMode (run_attend run now)
  exact ⟨es, trace, move.exchanges up settled answered⟩

section Run

variable {c : Config} (run : Run c s.device s.env.trace.bare)

include run

theorem calls_tick {es : Trace}
    (trace : (s.tick now).env.trace.bare = es ++ (s.prepare now).env.trace.bare) :
    (s.tick now).env.trace.calls = es.calls ++ s.env.trace.calls := by
  rw [← calls_prepare run now, ← calls_bare, trace, ← calls_bare (s.prepare now).env.trace]
  exact List.filter_append ..

theorem selects_prepare (up : (s.prepare now).device.link = .active mode) (choice : Choice) :
    (s.prepare now).device.Selects choice ↔ choice = (s.prepare now).device.choose :=
  (run_prepare run now).booked.selects_iff (by rw [up]; rfl)

/-- The frame chosen is offered, and a refusal changes nothing. -/
theorem offered_tick (up : (s.prepare now).device.link = .active mode)
    (settled : (s.prepare now).device.slots.pending .setMode = none) {out : InFlight}
    (frame : (s.prepare now).device.choose.frame? = some out) :
    ∃ accepted, (s.tick now).env.trace.calls =
        .transferred out.frame.encode accepted :: s.env.trace.calls ∧
      (s.tick now).env.trace.confirmations = (s.prepare now).env.trace.confirmations ∧
      if accepted then (s.prepare now).device.Sends mode out (s.tick now).device
      else (s.tick now).device = (s.prepare now).device := by
  obtain ⟨es, trace, exchanges⟩ := exchanges_tick run up settled
  rw [calls_tick run trace, confirmations_of_bare trace]
  rcases exchanges.offers frame with ⟨rfl, taken⟩ | ⟨rfl, refused⟩
  · rw [taken]
    exact ⟨true, rfl, rfl, (run_prepare run now).booked.sends up (chooses_iff.2 frame)⟩
  · exact ⟨false, rfl, rfl, refused⟩

/-- Input data that are too long are not offered. -/
theorem dropped_tick (up : (s.prepare now).device.link = .active mode)
    (settled : (s.prepare now).device.slots.pending .setMode = none)
    (none : (s.prepare now).device.choose.frame? = none) :
    (s.tick now).env.trace.calls = s.env.trace.calls ∧
      (s.tick now).env.trace.confirmations =
        (.input, .error .overflow) :: (s.prepare now).env.trace.confirmations ∧
      (s.tick now).device = { (s.prepare now).device with
        slots := (s.prepare now).device.slots.close .input } := by
  obtain ⟨es, trace, exchanges⟩ := exchanges_tick run up settled
  obtain ⟨length, cause, a, long, rfl, dropped⟩ := exchanges.drops none
  have overflow := (selects_prepare run up _).2 rfl
  rw [long] at overflow
  cases overflow
  rw [calls_tick run trace, confirmations_of_bare trace]
  exact ⟨rfl, rfl, dropped⟩

end Run

/-- What a tick does that comes to its exchange, with the link up and no mode asked for, follows
from one choice, and the rule selects no other. A frame that is kept is the one the transceiver took
last. The frame chosen is offered, in the only call of the tick, and nothing is confirmed meanwhile:
if it is taken, it is on the line, and if not, the device stays as it was. An input update that is
too long fails alone, and no frame is offered. -/
theorem Reach.frame_selected (h : Reach s) (up : (s.prepare now).link = .active mode)
    (unasked : .setMode ∉ (s.prepare now).outstanding) :
    ∃ choice, (∀ other, (s.prepare now).device.Selects other ↔ other = choice) ∧
      (∀ kept, choice = .again kept →
        (s.prepare now).env.trace.sent = some kept.frame.encode) ∧
      (∀ out, choice.frame? = some out → ∃ accepted,
        (s.tick now).env.trace.calls =
          .transferred out.frame.encode accepted :: s.env.trace.calls ∧
        (s.tick now).env.trace.confirmations = (s.prepare now).env.trace.confirmations ∧
        if accepted then (s.prepare now).device.Sends mode out (s.tick now).device
        else (s.tick now).device = (s.prepare now).device) ∧
      (choice.frame? = none →
        (s.tick now).env.trace.calls = s.env.trace.calls ∧
        (s.tick now).env.trace.confirmations =
          (.input, .error .overflow) :: (s.prepare now).env.trace.confirmations ∧
        (s.tick now).device = { (s.prepare now).device with
          slots := (s.prepare now).device.slots.close .input }) := by
  obtain ⟨c, -, run⟩ := h.run
  have settled := pending_setMode_of_unasked unasked
  refine ⟨_, selects_prepare run up, fun kept again => ?_, fun out => offered_tick run up settled,
    dropped_tick run up settled⟩
  rw [← sent_bare]
  exact ((run_prepare run now).kept kept (choose_again again)).2

/-- New input data go before an event. -/
theorem frame_selected_linked :
    let s := ((Bench.linked.setInput [1, 2]).2.sendEvent 7).2
    let out : InFlight := ⟨.processData true [1, 2], some .input⟩
    Reach s ∧ (s.prepare 3000).link = .active .com1 ∧
      .setMode ∉ (s.prepare 3000).outstanding ∧ .event ∈ (s.prepare 3000).outstanding ∧
      (s.prepare 3000).device.Selects (.fresh out) ∧
      (s.prepare 3000).device.Sends .com1 out (s.tick 3000).device := by
  intro s out
  have reach : Reach s :=
    (Bench.reach_linked.submit ⟨.input, [1, 2]⟩ nofun).submit ⟨.event, 7⟩ nofun
  have up : (s.prepare 3000).link = .active .com1 := by decide +kernel
  have unasked : .setMode ∉ (s.prepare 3000).outstanding := by decide +kernel
  have data : ((s.prepare 3000).device.slots.get .input).map Ticket.payload = some [1, 2] := by
    decide +kernel
  have update : (s.prepare 3000).device.slots.request? .input = some ⟨.input, [1, 2]⟩ := by
    obtain ⟨ticket, get, same⟩ := Option.map_eq_some_iff.1 data
    rw [Slots.request?, get, ← same]
    rfl
  have selected : (s.prepare 3000).device.Selects (.fresh out) :=
    .input (by decide +kernel) update (by decide +kernel)
  obtain ⟨choice, unique, -, offers, -⟩ := reach.frame_selected up unasked
  obtain ⟨accepted, -, -, after⟩ := offers out (by rw [← (unique _).1 selected]; rfl)
  cases accepted with
  | true => exact ⟨reach, up, unasked, by decide +kernel, selected, after⟩
  | false =>
    have sent : (s.tick 3000).link = .transferring .com1 := by decide +kernel
    cases up.symm.trans ((congrArg Device.link after).symm.trans sent)

end Session

end Sdci
