import Sdci.Proofs.Transitions

/-! # Which requests can be outstanding

Each state of the link has room for the requests that its dispatch work, or the way out of it, will
end. In SIO nothing waits that needs a link, in the fault state nothing but requests for the mode
and about it, and those do not outlive a tick.

* `Link.houses`: the kinds of request that a state has room for.
* `Device.Housed`: no other kind is open.
* `Session.Works`, `Session.prepare`: the last part of a tick, and the tick up to it.
* `Session.Reach.outstanding_housed`: what is outstanding in every state, and after every tick.
-/

namespace Sdci
set_option autoImplicit false

namespace Link

def houses : Link → Service → Bool
  | inactive, k => !k.needsLink
  | fault, k => k == .setMode || k == .getMode
  | _, _ => true

end Link

namespace Slots

theorem isOpen_eq_false {s : Slots} {k : Service} (waits : s.pending k = none)
    (unmarked : s.isDispatched k = false) : s.isOpen k = false := by
  rw [isOpen, ← pending_eq_get unmarked, waits]
  rfl

theorem exists_request?_of_isOpen {s : Slots} {k : Service} (h : s.isOpen k = true) :
    ∃ r, s.request? k = some r := by
  obtain ⟨t, get⟩ := Option.isSome_iff_exists.1 h
  exact ⟨⟨k, t.payload⟩, by rw [request?, get]; rfl⟩

theorem isOpen_of_close {s : Slots} {j k : Service} (h : (s.close j).isOpen k = true) :
    s.isOpen k = true := by
  rw [isOpen_close] at h
  exact (Bool.and_eq_true_iff.1 h).2

theorem pending_of_nextOutOfCycle {s : Slots} (h : s.nextOutOfCycle = none) {k : Service}
    (mem : k ∈ Service.outOfCycle) : s.pending k = none :=
  Option.map_eq_none_iff.1 (List.findSome?_eq_none_iff.1 h k mem)

end Slots

namespace Device

/-! ## Room for requests -/

def Housed (d : Device) : Prop := ∀ k, d.slots.isOpen k = true → d.link.houses k = true

theorem houses_of_admits {d : Device} {r : Request} (own : r.kind ≠ .access)
    (h : d.admits r = .ok ()) : d.link.houses r.kind = true := by
  obtain ⟨kind, content⟩ := r
  cases link : d.link <;> cases kind <;>
    first | rfl | exact absurd rfl own | simp [admits, link, Link.available] at h

theorem isOpen_of_survivors {d : Device} {k : Service} (h : d.survivors.isOpen k = true) :
    d.slots.isOpen k = true := by
  obtain ⟨r, request⟩ := Slots.exists_request?_of_isOpen h
  exact Slots.isOpen_of_request? (request?_of_survivors request)

theorem Housed.mono {d u : Device} (h : d.Housed) (link : u.link = d.link)
    (fewer : ∀ k, u.slots.isOpen k = true → d.slots.isOpen k = true) : u.Housed := by
  intro k isOpen
  rw [link]
  exact h k (fewer k isOpen)

theorem Move.housed {p : Phase} {d u : Device} {es : Trace} (h : Move p d es u)
    (before : d.Housed) : u.Housed := by
  cases h with
  | grant own granted =>
    intro k isOpen
    rw [Slots.isOpen_place] at isOpen
    have room := houses_of_admits own granted
    rcases Bool.or_eq_true_iff.1 isOpen with new | old
    · rw [beq_iff_eq.1 new]
      exact room
    · exact before k old
  | establish link requested lost done =>
    rename_i mode es₁ es₂
    intro k isOpen
    have left := Slots.isOpen_of_close isOpen
    cases active : mode.active with
    | true =>
      have up : (d.established mode).link = .active mode := if_pos active
      rw [up]
      rfl
    | false =>
      have down : (d.established mode).link = .inactive := if_neg (by simp [active])
      rw [if_neg (by simp [active]), Slots.isOpen_takeWhere] at left
      rw [down]
      exact (Bool.and_eq_true_iff.1 left).1
  | exchange link decode fits settles =>
    intro k _
    rw [settles.eq]
    rfl
  | retry => exact fun _ _ => rfl
  | exhaust =>
    intro k isOpen
    cases k <;> cases isOpen
  | fault =>
    intro k isOpen
    cases k <;> cases isOpen
  | answerMode => exact before.mono rfl fun _ => Slots.isOpen_of_close
  | switch => exact fun _ _ => rfl
  | refuseMode =>
    exact before.mono rfl fun _ isOpen => isOpen_of_survivors (Slots.isOpen_of_close isOpen)
  | serve => exact before.mono rfl fun _ => Slots.isOpen_of_close
  | drop => exact before.mono rfl fun _ => Slots.isOpen_of_close
  | launch => exact fun _ _ => rfl
  | _ => exact before

/-- Nothing is left over in the fault state that a new link would have to be rid of. -/
theorem Housed.isOpen_leftover {d : Device} (h : d.Housed) (fault : d.link = .fault) {k : Service}
    (chosen : leftover k = true) : d.slots.isOpen k = false := by
  refine Bool.eq_false_iff.2 fun isOpen => ?_
  have room := h k isOpen
  rw [fault] at room
  cases k <;> first | cases room; done | cases chosen

theorem Housed.leftovers {d : Device} (h : d.Housed) : d.leftovers = [] := by
  unfold Device.leftovers
  split
  · rename_i fault
    refine List.filter_eq_nil_iff.2 fun k mem => ?_
    rw [h.isOpen_leftover fault (List.mem_filter.1 mem).2]
    exact Bool.false_ne_true
  · rfl

theorem Housed.survivors_eq {d : Device} (h : d.Housed) : d.survivors = d.slots := by
  unfold survivors
  split
  · rename_i fault
    refine Slots.ext_get fun k => ?_
    rw [Slots.get_takeWhere]
    split
    · rename_i chosen
      have closed := h.isOpen_leftover fault chosen
      exact (Option.not_isSome_iff_eq_none.1 (Bool.eq_false_iff.1 closed)).symm
    · rfl
  · rfl

theorem Run.housed {c : Config} {d : Device} {t : Trace} (h : Run c d t) : d.Housed := by
  induction h with
  | start =>
    intro k isOpen
    cases k <;> cases isOpen
  | move before last ih => exact last.housed ih

/-! ## Requests that wait -/

/-- A request for the mode or about it rides on no frame. -/
theorem Run.isDispatched_eq_false {c : Config} {d : Device} {t : Trace} (h : Run c d t)
    {k : Service} (about : k = .getMode ∨ k = .setMode ∧ d.link.isSwitching = false) :
    d.slots.isDispatched k = false := by
  refine Bool.eq_false_iff.2 fun dispatched => ?_
  rcases (h.booked.marks k).1 dispatched with rides | ⟨rfl, switching⟩
  · have kinds := h.kind_of_riding rides
    rcases about with rfl | ⟨rfl, -⟩ <;> revert kinds <;> decide
  · rcases about with other | ⟨-, steady⟩
    · cases other
    · rw [steady] at switching
      cases switching

/-- In SIO and in the fault state every open request waits to be served. -/
theorem Run.isDispatched_of_away {c : Config} {d : Device} {t : Trace} (h : Run c d t)
    (away : d.link = .inactive ∨ d.link = .fault) {k : Service} :
    d.slots.isDispatched k = false := by
  refine h.booked.unmarked (h.booked.inFlight_of_away ?_) ?_ k <;>
    rcases away with link | link <;> rw [link] <;> rfl

/-- A mode switch under way is the one asked for, and its request is marked. -/
theorem Run.ticket_of_switching {c : Config} {d : Device} {t : Trace} (h : Run c d t)
    {target : Mode} (link : d.link = .switching target) :
    ∃ ticket, d.slots.get .setMode = some ticket ∧ ticket.payload = target ∧
      ticket.dispatched = true := by
  obtain ⟨ticket, get, same⟩ := Option.map_eq_some_iff.1 (h.heeds target link)
  have dispatched := (h.booked.marks .setMode).2 (.inr ⟨rfl, by rw [link]; rfl⟩)
  rw [Slots.isDispatched_of_get get] at dispatched
  cases same
  exact ⟨ticket, get, rfl, dispatched⟩

/-- Within a tick only answers to parameter accesses are opened. -/
theorem Moves.isOpen_eq_false {p : Phase} {d u : Device} {es : Trace} (h : Moves p d es u)
    (other : p ≠ .call) {k : Service} (own : k ≠ .access) (closed : d.slots.isOpen k = false) :
    u.slots.isOpen k = false := by
  refine Bool.eq_false_iff.2 fun isOpen => ?_
  obtain ⟨r, request⟩ := Slots.exists_request?_of_isOpen isOpen
  rw [Slots.isOpen_of_request? (h.request?_of_open request own other)] at closed
  cases closed

end Device

namespace Session

open Device

variable {σ : Type}

section Application

variable [Application σ] {s : Session σ} {c : Config}

/-! ## The dispatch work -/

theorem failWhere_eq_self {cause : Failure} {select : Service → Bool}
    (none : ∀ k, select k = true → s.device.slots.isOpen k = false) :
    s.failWhere cause select = s := by
  have empty (k : Service) (chosen : select k = true) : s.device.slots.get k = Option.none :=
    Option.not_isSome_iff_eq_none.1 (Bool.eq_false_iff.1 (none k chosen))
  have taken : (s.device.slots.takeWhere select).1 = [] := by
    refine List.filterMap_eq_nil_iff.2 fun k mem => ?_
    rw [empty k (List.mem_filter.1 mem).2]
    rfl
  have kept : (s.device.slots.takeWhere select).2 = s.device.slots := by
    refine Slots.ext_get fun k => ?_
    rw [Slots.get_takeWhere]
    split
    · rename_i chosen
      exact (empty k chosen).symm
    · rfl
  unfold failWhere
  dsimp only
  rw [taken, kept]
  rfl

theorem clearFault_eq_self (run : Run c s.device s.env.trace.bare) : s.clearFault = s := by
  unfold clearFault
  split
  · rename_i fault
    exact failWhere_eq_self fun k chosen => run.housed.isOpen_leftover fault chosen
  · rfl

theorem isOpen_getMode_serveMode (run : Run c s.device s.env.trace.bare) :
    s.serveMode.device.slots.isOpen .getMode = false := by
  unfold serveMode
  split
  · rw [device_finish, Slots.isOpen_close]
    rfl
  · rename_i waits
    have none : s.device.slots.pending .getMode = Option.none :=
      Option.not_isSome_iff_eq_none.1 waits
    exact Slots.isOpen_eq_false none (run.isDispatched_eq_false (.inl rfl))

theorem nextOutOfCycle_serveAllLocally (s : Session σ) :
    s.serveAllLocally.device.slots.nextOutOfCycle = none := by
  fun_induction serveAllLocally s with
  | case1 s next => exact next
  | case2 s request next ih => exact ih

variable [Transceiver σ] {now : Nat} {t : Session σ}

/-- A mode that is wanted is asked for: afterwards the request is on its way, or refused. -/
theorem isOpen_setMode_of_works (run : Run c s.device s.env.trace.bare)
    (works : Works s s.device.lastTick t) (performs : Performs .work s t)
    (idle : t.device.link.idle = true) : t.device.slots.isOpen .setMode = false := by
  have unasked (settled : s.device.slots.pending .setMode = none)
      (steady : s.device.link.isSwitching = false) : t.device.slots.isOpen .setMode = false := by
    have closed := Slots.isOpen_eq_false settled (run.isDispatched_eq_false (.inr ⟨rfl, steady⟩))
    obtain ⟨es, -, moves⟩ := performs
    exact moves.isOpen_eq_false nofun nofun closed
  cases works with
  | switch ready pending =>
    rename_i ticket
    rw [s.device_switchTo ticket.payload ready] at idle ⊢
    split at idle
    · cases idle
    · rename_i refused
      rw [if_neg refused, Slots.isOpen_close]
      rfl
  | serve link settled => exact unasked settled (by rw [link]; rfl)
  | exchange link settled => exact unasked settled (by rw [link]; rfl)
  | rest ready =>
    obtain ⟨link, settled⟩ := ready idle
    exact unasked settled (by rw [link]; rfl)

/-! ## Ticks -/

/-- A tick up to the work of its state. -/
def prepare (s : Session σ) (now : Nat) : Session σ := (s.attend now).serveMode

theorem run_attend (run : Run c s.device s.env.trace.bare) (now : Nat) :
    Run c (s.attend now).device (s.attend now).env.trace.bare := by
  obtain ⟨entered, polled, expired, -⟩ := s.performs_tick now
  exact expired.run (polled.performs.run (entered.performs.run run))

theorem lastTick_attend (s : Session σ) (now : Nat) : (s.attend now).device.lastTick = now := by
  obtain ⟨-, polled, expired, -⟩ := s.performs_tick now
  exact (expired.lastTick nofun).trans (polled.performs.lastTick nofun)

theorem performs_prepare (s : Session σ) (now : Nat) :
    Performs .work (s.attend now) (s.prepare now) := by
  refine performs_serveMode ?_
  rw [lastTick_attend]
  exact due_expireTimers ..

theorem lastTick_prepare (s : Session σ) (now : Nat) : (s.prepare now).device.lastTick = now :=
  ((s.performs_prepare now).lastTick nofun).trans (s.lastTick_attend now)

theorem works_tick (s : Session σ) (now : Nat) :
    Works (s.prepare now) (s.prepare now).device.lastTick (s.tick now) := by
  rw [lastTick_prepare]
  exact works_dispatch (s.attend now) now

theorem quiet_prepare (s : Session σ) (now : Nat) :
    (s.prepare now).device.line.timers.due? (s.prepare now).device.lastTick = none := by
  rw [lastTick_prepare, prepare, device_serveMode]
  exact due_expireTimers ..

theorem performs_work (s : Session σ) (now : Nat) :
    Performs .work (s.prepare now) (s.tick now) :=
  performs_works (s.quiet_prepare now) (s.works_tick now)

/-- In SIO nothing is left open by a tick that is not wanted to switch. -/
theorem isOpen_eq_false_of_inactive (run : Run c s.device s.env.trace.bare)
    (link : (s.tick now).device.link = .inactive)
    (unwanted : s.device.slots.pending .setMode = none) {k : Service}
    (own : k ∈ Service.outOfCycle) : (s.tick now).device.slots.isOpen k = false := by
  have unmarked := (run_step (.tick s now) run).isDispatched_of_away (.inl link) (k := k)
  have works := s.works_tick now
  have performs := s.performs_work now
  generalize s.tick now = t at link unmarked works performs
  cases works with
  | switch ready pending =>
    obtain ⟨es, -, earlier⟩ := s.performs_prepare now
    have before := pending_of_attend (earlier.pending_setMode nofun pending)
    rw [unwanted] at before
    cases before
  | serve ready settled =>
    have next := (s.prepare now).nextOutOfCycle_serveAllLocally
    exact Slots.isOpen_eq_false (Slots.pending_of_nextOutOfCycle next own) unmarked
  | exchange up settled =>
    obtain ⟨es, -, moves⟩ := performs
    rcases moves.keeps_link with kept | ⟨-, ticket, -, begun, -⟩
    · rw [up] at kept
      rcases kept with same | same | same <;> cases link.symm.trans same
    · cases link.symm.trans begun
  | rest ready =>
    obtain ⟨fault, -⟩ := ready (by rw [link]; rfl)
    cases link.symm.trans fault

end Application

/-! ## What is outstanding -/

theorem mem_outstanding {s : Session σ} {k : Service} :
    k ∈ s.outstanding ↔ s.device.slots.isOpen k = true := by
  simp [outstanding, Slots.openKinds, Service.mem_all]

variable [Transceiver σ] [Application σ]

/-- In every run each state of the link has room for the requests that are outstanding, and a mode
switch under way is the one asked for. No tick leaves a request about the mode, none that ends
without a mode switch or an exchange under way leaves a request for the mode, none that ends in the
fault state leaves any, and none that ends in SIO does unless it was wanted to switch. A mode switch
out of the fault state finds nothing to clear away. -/
theorem Reach.outstanding_housed {s : Session σ} (h : Reach s) :
    (s.link = .inactive →
      .input ∉ s.outstanding ∧ .event ∉ s.outstanding ∧ .access ∉ s.outstanding) ∧
    (s.link = .fault → ∀ k ∈ s.outstanding,
      (k = .setMode ∨ k = .getMode) ∧ s.device.slots.isDispatched k = false) ∧
    (∀ target, s.link = .switching target → ∃ ticket, s.device.slots.get .setMode = some ticket ∧
      ticket.payload = target ∧ ticket.dispatched = true) ∧
    ∀ now,
      .getMode ∉ (s.tick now).outstanding ∧
      ((s.tick now).link.idle = true → .setMode ∉ (s.tick now).outstanding) ∧
      ((s.tick now).link = .fault → (s.tick now).outstanding = []) ∧
      ((s.tick now).link = .inactive → s.wanted = none → (s.tick now).outstanding = []) ∧
      (s.prepare now).clearFault = s.prepare now := by
  obtain ⟨c, -, run⟩ := h.run
  have housed {u : Session σ} {b : Trace} (run : Run c u.device b) {k : Service}
      (mem : k ∈ u.outstanding) : u.link.houses k = true := run.housed k (mem_outstanding.1 mem)
  refine ⟨fun link => ?_, fun link k mem => ⟨?_, run.isDispatched_of_away (.inr link)⟩,
    fun _ => run.ticket_of_switching, fun now => ?_⟩
  · have away (k : Service) (needs : k.needsLink = true) : k ∉ s.outstanding := by
      intro mem
      have room := housed run mem
      rw [link, Link.houses, needs] at room
      cases room
    exact ⟨away _ rfl, away _ rfl, away _ rfl⟩
  · have room := housed run mem
    rw [link] at room
    simpa [Link.houses] using room
  have later := run_step (.tick s now) run
  have prepared := (s.performs_prepare now).run (run_attend run now)
  have getMode : .getMode ∉ (s.tick now).outstanding := by
    intro mem
    obtain ⟨es, -, worked⟩ := s.performs_work now
    have own : Service.getMode ≠ .access := nofun
    have closed := worked.isOpen_eq_false nofun own (isOpen_getMode_serveMode (run_attend run now))
    rw [mem_outstanding.1 mem] at closed
    cases closed
  have setMode (idle : (s.tick now).link.idle = true) : .setMode ∉ (s.tick now).outstanding := by
    intro mem
    have closed := isOpen_setMode_of_works prepared (s.works_tick now) (s.performs_work now) idle
    rw [mem_outstanding.1 mem] at closed
    cases closed
  refine ⟨getMode, setMode, fun link => ?_, fun link unwanted => ?_, clearFault_eq_self prepared⟩
  · refine List.eq_nil_iff_forall_not_mem.2 fun k mem => ?_
    have room := housed later mem
    rw [link] at room
    have setMode := setMode (by rw [link]; rfl)
    cases k with
    | setMode => exact setMode mem
    | getMode => exact getMode mem
    | _ => cases room
  · refine List.eq_nil_iff_forall_not_mem.2 fun k mem => ?_
    have room := housed later mem
    rw [link] at room
    have setMode := setMode (by rw [link]; rfl)
    have served (own : k ∈ Service.outOfCycle) : False := by
      have closed := isOpen_eq_false_of_inactive run link (Option.map_eq_none_iff.1 unwanted) own
      rw [mem_outstanding.1 mem] at closed
      cases closed
    cases k with
    | setMode => exact setMode mem
    | getMode => exact getMode mem
    | input | event | access => cases room
    | setIdent | getIdent | setCom | getCom => exact served (by decide)

theorem outstanding_housed_struck :
    let s := Bench.exchanging.mapHost fun b =>
      { b with wire := { b.wire with queue := [.hardwareFault] } }
    Reach s ∧ s.outstanding = [.input, .event] ∧ (s.tick 4000).link = .fault ∧
      (s.tick 4000).outstanding = [] := by
  intro s
  have reach : Reach s := Bench.reach_exchanging.step (.mapHost ..)
  have fault : (s.tick 4000).link = .fault := by decide +kernel
  obtain ⟨-, -, -, after⟩ := reach.outstanding_housed
  obtain ⟨-, -, empty, -⟩ := after 4000
  exact ⟨reach, by decide +kernel, fault, empty fault⟩

end Session

end Sdci
