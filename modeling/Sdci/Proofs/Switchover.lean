import Sdci.Proofs.Deadlines
import Sdci.Proofs.LocalService

/-! # Requests across a mode switch

A mode switch drops the exchange that was under way, but no request. Those that are open wait until
the switch is over. On a new link they go on from there; in SIO those that need a link fail, and the
others are answered.

* `Session.Suspends`: the requests when a switch begins.
* `Device.Retains`, `Session.retains_of_steps`: as long as the line is being switched, none is lost.
* `Session.Resumes`, `Session.Retires`: the requests when the switch is confirmed, on a new link and
  in SIO.
* `Session.Reach.requests_across_switch`: what happens to requests across every mode switch.
-/

namespace Sdci
set_option autoImplicit false

open Trace

namespace Device

variable {d u v : Device} {target : Mode} {p : Phase} {es t : Trace}

/-! ## While the line is being switched -/

/-- If the line is being switched now, it was being switched before, and what was open still is. -/
def Retains (target : Mode) (d u : Device) : Prop :=
  u.link = .switching target → d.link = .switching target ∧
    ∀ k ticket, k ≠ .getMode → d.slots.get k = some ticket → u.slots.get k = some ticket

namespace Retains

theorem of_same (link : u.link = d.link) (slots : u.slots = d.slots) : Retains target d u := by
  intro switching
  rw [slots]
  exact ⟨link.symm.trans switching, fun _ _ _ => id⟩

theorem of_steady (steady : u.link.isSwitching = false) : Retains target d u := by
  intro switching
  rw [switching] at steady
  cases steady

theorem trans (h₁ : Retains target d v) (h₂ : Retains target v u) : Retains target d u := by
  intro switching
  obtain ⟨between, later⟩ := h₂ switching
  obtain ⟨before, earlier⟩ := h₁ between
  exact ⟨before, fun k ticket own get => later k ticket own (earlier k ticket own get)⟩

end Retains

theorem Move.retains (h : Move p d es u) (still : es.acceptances = 0) : Retains target d u := by
  cases h with
  | grant own granted =>
    rename_i r
    refine fun switching => ⟨switching, fun k ticket _ get => ?_⟩
    have other : k ≠ r.kind := by
      rintro rfl
      have free := isOpen_of_admits granted
      rw [Slots.isOpen, get] at free
      cases free
    exact (Slots.get_place_ne _ other _).trans get
  | establish link requested lost done =>
    rename_i mode es₁ es₂
    refine .of_steady ?_
    unfold established
    cases mode.active <;> rfl
  | exchange link decode fits settles =>
    rw [settles.eq]
    exact .of_steady rfl
  | retry => exact .of_steady rfl
  | exhaust => exact .of_steady rfl
  | fault => exact .of_steady rfl
  | answerMode =>
    exact fun switching => ⟨switching, fun k ticket own get => (Slots.get_close_ne _ own).trans get⟩
  | switch quiet idle pending lost =>
    -- This is the one move with which a mode is accepted.
    rename_i ticket fs
    exact absurd rfl (List.countP_eq_zero.1 still (.modeSet ticket.payload true) (by simp))
  | refuseMode a quiet idle =>
    intro switching
    rw [show d.link = .switching target from switching] at idle
    cases idle
  | serve a unhurried link => exact .of_steady (by rw [link]; rfl)
  | drop a unhurried link => exact .of_steady (by rw [link]; rfl)
  | launch => exact .of_steady rfl
  | refuse | clock | silence | ignore | stale | busy => exact .of_same rfl rfl

theorem Moves.retains (h : Moves p d es u) (still : es.acceptances = 0) : Retains target d u := by
  induction h with
  | refl => exact .of_same rfl rfl
  | tail before last ih =>
    rw [acceptances_append, Nat.add_eq_zero_iff] at still
    exact (ih still.2).trans (last.retains still.1)

/-! ## Confirmed switches -/

/-- The confirmation that is awaited ends the switch, and the request for it. -/
theorem Move.establishes (h : Move .poll d es u) (link : d.link = .switching target)
    (tuned : d.Tuned) (isOpen : d.slots.isOpen .setMode = true)
    (told : Trace.indication (es ++ t) = some (.modeSwitched target)) :
    u = d.established target ∧
      es.confirmations = (.setMode, .ok (some [target.code])) ::
        (if target.active then []
          else d.slots.ending [.input, .event, .access] (.error .notReady)).reverse := by
  have first := h.first_poll t
  rw [told] at first
  cases h with
  | silence => cases first
  | ignore useless =>
    cases first
    rw [link] at useless
    cases useless
  | establish same requested lost done =>
    cases link.symm.trans same
    have needy : Service.all.filter Service.needsLink = [.input, .event, .access] := rfl
    have begun : confirmations [.linkEvent d.link (.modeConfirmed target),
        .polled (some (.modeSwitched target))] = [] := rfl
    rw [Slots.among_single, isOpen, if_pos rfl] at done
    rw [needy] at lost
    rw [confirmations_append, confirmations_append, lost.confirmations, done.confirmations, begun,
      List.append_nil]
    refine ⟨rfl, ?_⟩
    cases target.active <;> rfl
  | exchange other => cases link.symm.trans other
  | retry other => cases link.symm.trans other
  | exhaust other => cases link.symm.trans other
  | fault fatal failed =>
    cases fatal with
    | hardware => simp at first
    | wrongMode same wrong =>
      cases link.symm.trans same
      rename_i mode
      obtain rfl : mode = target := by simpa using first
      rcases wrong with other | unasked
      · exact absurd rfl other
      · exact absurd (tuned.asked _ link) unasked
    | malformed other => cases link.symm.trans other
    | oversized other => cases link.symm.trans other

/-- No timer is due when a link has just been made. -/
theorem Supervised.quiet_established (h : d.Supervised) (link : d.link = .switching target) :
    (d.established target).line.timers.due? d.lastTick = none := by
  -- While the line is being switched no timer runs but the one that is stopped now.
  have stopped (k : Timer) (r : Running) : (d.line.timers.stop .modeSwitch).get k ≠ some r := by
    intro get
    by_cases same : k = .modeSwitch
    · subst same
      simp [Timers.stop] at get
    · rw [Timers.stop, Timers.get_set_ne _ same] at get
      obtain ⟨watched, -⟩ := h.running get
      rw [link] at watched
      cases k with
      | modeSwitch => exact same rfl
      | _ => cases watched
  refine Timers.due?_eq_none_iff.2 fun k r get => ?_
  have timers : (d.established target).line.timers =
      if target.active then d.supervise (d.line.timers.stop .modeSwitch)
      else d.line.timers.stop .modeSwitch := rfl
  rw [timers] at get
  split at get
  · rw [get_supervise] at get
    split at get
    · rename_i started
      cases get
      exact Nat.lt_add_of_pos_right (UInt32.pos_iff_ne_zero.2 started.2)
    · exact absurd get (stopped k r)
  · exact absurd get (stopped k r)

end Device

namespace Session

open Device

variable {σ : Type} {s t u : Session σ} {target : Mode}

/-! ## Steps -/

/-- The modes accepted never become fewer, and if they are the same, `t` retains what `s` has. -/
structure Retains (target : Mode) (s t : Session σ) : Prop where
  more : s.env.trace.acceptances ≤ t.env.trace.acceptances
  still : t.env.trace.acceptances = s.env.trace.acceptances →
    s.device.Retains target t.device

theorem Retains.trans (h₁ : Retains target s t) (h₂ : Retains target t u) :
    Retains target s u := by
  have first := h₁.more
  have last := h₂.more
  refine ⟨Nat.le_trans first last, fun same => ?_⟩
  exact (h₁.still (by omega)).trans (h₂.still (by omega))

theorem Performs.retains {p : Phase} (h : Performs p s t) : Retains target s t := by
  refine ⟨acceptances_le h.suffix, fun same => ?_⟩
  obtain ⟨es, trace, moves⟩ := h
  refine moves.retains ?_
  have count := congrArg acceptances trace
  rw [acceptances_append, acceptances_bare, acceptances_bare] at count
  omega

variable [Transceiver σ] [Application σ]

theorem Step.retains (h : Step s t) : Retains target s t := by
  cases h with
  | tick now =>
    obtain ⟨entered, polled, expired, worked⟩ := s.performs_tick now
    exact entered.performs.retains.trans
      (polled.performs.retains.trans (expired.retains.trans worked.retains))
  | submit r own => exact (s.makes_submit own).performs.retains
  | mapHost f => exact ⟨Nat.le_refl _, fun _ => .of_same rfl rfl⟩

theorem retains_of_steps (h : Relation.ReflTransGen Step s t) : Retains target s t := by
  induction h with
  | refl => exact ⟨Nat.le_refl _, fun _ => .of_same rfl rfl⟩
  | tail earlier next ih => exact ih.trans next.retains

/-! ## The beginning of a switch -/

/-- From `s`, whose dispatch work is still to come, a switch has begun: a question about the mode
has been answered first, and all other requests wait as they are, none of them on a frame. -/
structure Suspends (target : Mode) (s t : Session σ) : Prop where
  link : t.link = .switching target
  frame : t.device.inFlight = none
  asked : ∃ ticket, t.device.slots.get .setMode = some ticket ∧ ticket.payload = target
  others : ∀ k, k ≠ .setMode → k ≠ .getMode →
    t.device.slots.get k =
      (s.device.slots.get k).map fun ticket => { ticket with dispatched := false }
  answered : .getMode ∉ t.outstanding
  confirmations : t.env.trace.confirmations =
    s.device.slots.ending [.getMode] (.ok (some [s.device.line.mode.code])) ++
      s.env.trace.confirmations

variable {c : Config} {now : Nat}

theorem switched_tick (run : Run c s.device s.env.trace.bare)
    (accepted : (s.tick now).env.trace.calls = .modeSet target true :: s.env.trace.calls) :
    (s.tick now).device = (s.prepare now).device.switched target ∧
      (s.tick now).env.trace.confirmations = (s.prepare now).env.trace.confirmations := by
  obtain ⟨later, trace, acts⟩ := acts_of_call run accepted
  rw [List.append_cons] at trace
  rw [confirmations_of_bare trace]
  generalize (s.tick now).device = v at acts
  cases acts with
  | switch pending => exact ⟨rfl, rfl⟩

theorem suspends_tick (run : Run c s.device s.env.trace.bare)
    (accepted : (s.tick now).env.trace.calls = .modeSet target true :: s.env.trace.calls) :
    Suspends target (s.attend now) (s.tick now) := by
  have attended := run_attend run now
  have survivors : (s.prepare now).device.survivors =
      (s.attend now).device.slots.close .getMode := by
    rw [(run_prepare run now).housed.survivors_eq]
    exact slots_serveMode attended
  obtain ⟨device, confirmations⟩ := switched_tick run accepted
  have slots : (s.tick now).device.slots =
      ((s.attend now).device.slots.close .getMode).requeue.mark .setMode true := by
    rw [device, ← survivors]
    rfl
  refine ⟨by rw [Session.link, device]; rfl, by rw [device]; rfl, ?_, fun k own other => ?_, ?_, ?_⟩
  · obtain ⟨ticket, get, same, -⟩ :=
      (run_step (.tick s now) run).ticket_of_switching (by rw [device]; rfl)
    exact ⟨ticket, get, same⟩
  · rw [slots, Slots.get_mark_ne _ own, Slots.get_requeue, Slots.get_close_ne _ other]
  · rw [mem_outstanding, slots, Slots.isOpen_mark, Slots.isOpen_requeue, Slots.isOpen_close]
    simp
  · rw [confirmations]
    exact confirmations_serveMode attended

/-! ## The end of a switch -/

/-- The new link is there, and only the request for the mode has ended, successfully. All others
wait for a frame. -/
structure Resumes (target : Mode) (s t : Session σ) : Prop where
  link : t.link = .active target
  frame : t.device.inFlight = none
  slots : t.device.slots = s.device.slots.close .setMode
  waits : ∀ k, t.device.slots.pending k = t.device.slots.get k
  confirmations : t.env.trace.confirmations =
    (.setMode, .ok (some [target.code])) :: s.env.trace.confirmations

/-- The line is in SIO, and nothing is open any more. What needs a link has failed; the request for
the mode, and one about it, have succeeded; and those about parameters have been answered from the
store. -/
structure Retires (s t : Session σ) : Prop where
  link : t.link = .inactive
  outstanding : t.outstanding = []
  store : t.device.store = s.device.ledger.2
  served : s.device.ledger.1.map Prod.fst = s.device.slots.among Service.parameters
  confirmations : t.env.trace.confirmations =
    (s.device.slots.ending [.input, .event, .access] (.error .notReady) ++
      (.setMode, .ok (some [Mode.inactive.code])) ::
        s.device.slots.ending [.getMode] (.ok (some [Mode.inactive.code])) ++
      s.device.ledger.1).reverse ++ s.env.trace.confirmations

section Confirmed

variable (run : Run c s.device s.env.trace.bare) (link : s.link = .switching target)
  (told : (s.tick now).env.trace.indication = some (.modeSwitched target))

include run link told

/-- Its report is all that such a tick deals with before the dispatch work. -/
theorem attend_of_confirmed :
    (s.attend now).device = Device.established { s.device with lastTick := now } target ∧
      (s.attend now).env.trace.confirmations = (.setMode, .ok (some [target.code])) ::
        (if target.active then []
          else s.device.slots.ending [.input, .event, .access] (.error .notReady)).reverse ++
            s.env.trace.confirmations := by
  obtain ⟨entered, ⟨es, trace, move⟩, -, -⟩ := s.performs_tick now
  have run' := entered.performs.run run
  obtain ⟨ticket, get, -⟩ := run.ticket_of_switching link
  have isOpen : s.device.slots.isOpen .setMode = true := by rw [Slots.isOpen, get]; rfl
  rw [indication_tick, ← indication_bare, trace] at told
  obtain ⟨device, confirmed⟩ := move.establishes link run'.tuned isOpen told
  have quiet : ((s.enterTick now).poll now).device.line.timers.due? now = none := by
    rw [device]
    exact run'.supervised.quiet_established link
  rw [attend, expireTimers_of_quiet quiet, confirmations_of_bare trace, confirmed]
  exact ⟨device, rfl⟩

theorem resumes_attend (rate : target.active = true) : Resumes target s (s.attend now) := by
  obtain ⟨device, confirmations⟩ := attend_of_confirmed run link told
  have booked := (run_attend run now).booked
  have up : (s.attend now).device.link = .active target := by
    rw [device]
    exact if_pos rate
  have frame : (s.attend now).device.inFlight = none := by
    rw [device]
    exact run.booked.inFlight_of_away (by rw [show s.device.link = _ from link]; rfl)
  refine ⟨up, frame, ?_, fun k => ?_, ?_⟩
  · rw [device]
    exact congrArg (Slots.close · .setMode) (if_pos rate)
  · exact Slots.pending_eq_get (booked.unmarked frame (by rw [up]; rfl) k)
  · rw [confirmations, if_pos rate]
    rfl

end Confirmed

section Retired

variable (run : Run c s.device s.env.trace.bare) (link : s.link = .switching .inactive)
  (told : (s.tick now).env.trace.indication = some (.modeSwitched .inactive))

include run link told

/-- Before the store is asked, all is over that it has no part in. -/
theorem prepare_of_retired :
    (s.prepare now).device =
        { (s.attend now).device with slots := s.device.slots.forStore } ∧
      (s.prepare now).env.trace.confirmations =
        s.device.slots.ending [.getMode] (.ok (some [Mode.inactive.code])) ++
          (.setMode, .ok (some [Mode.inactive.code])) ::
            (s.device.slots.ending [.input, .event, .access] (.error .notReady)).reverse ++
              s.env.trace.confirmations := by
  obtain ⟨device, confirmations⟩ := attend_of_confirmed run link told
  have attended := run_attend run now
  have asked : (s.attend now).device.slots.isOpen .getMode = s.device.slots.isOpen .getMode := by
    rw [device, established, Slots.isOpen_close]
    exact Slots.isOpen_takeWhere ..
  constructor
  · have same := (s.attend now).device_serveMode
    rw [slots_serveMode attended, device] at same
    rw [prepare, same, device]
    rfl
  · rw [prepare, confirmations_serveMode attended, confirmations, Slots.ending_single,
      Slots.ending_single, asked, device]
    exact (List.append_assoc ..).symm

theorem retires_tick : Retires s (s.tick now) := by
  obtain ⟨device, -⟩ := attend_of_confirmed run link told
  obtain ⟨prepared, confirmations⟩ := prepare_of_retired run link told
  have away : (s.prepare now).device.link = .inactive := by
    rw [prepared, device]
    rfl
  have only (k : Service) (isOpen : (s.prepare now).device.slots.isOpen k = true) :
      k ∈ Service.parameters := by
    rw [prepared] at isOpen
    exact Slots.mem_parameters_of_forStore isOpen
  have settled : (s.prepare now).device.slots.pending .setMode = none :=
    Slots.pending_eq_none (Bool.eq_false_iff.2 (mt (only .setMode) (by decide)))
  have ledger : (s.prepare now).device.ledger = s.device.ledger := by
    rw [prepared, Device.ledger, Slots.parameterRequests_forStore, device]
    rfl
  obtain ⟨done, confirmed⟩ := serveAllLocally_of_parameters _ only fun k =>
    (run_prepare run now).isDispatched_of_away (.inl away)
  rw [← tick_eq_serve away settled, ledger] at done confirmed
  refine ⟨?_, ?_, ?_, ?_, ?_⟩
  · rw [Session.link, done]
    exact away
  · rw [outstanding, done]
    rfl
  · rw [done]
  · exact (s.device.store.kinds_serveAll _).trans (Slots.kinds_requests ..)
  · rw [confirmed, confirmations]
    simp [Slots.reverse_ending_single]

end Retired

/-- When a tick of a run begins a mode switch, a question about the mode is answered first. No other
request ends then, and each is still open, unchanged, when the switch is confirmed, however long
that takes. On a new link only the request for the mode ends, and the others wait for a frame. In
SIO every request ends in that tick, in its own way. -/
theorem Reach.requests_across_switch (h : Reach s) {now : Nat}
    (accepted : (s.tick now).env.trace.calls = .modeSet target true :: s.env.trace.calls) :
    Suspends target (s.attend now) (s.tick now) ∧
      ∀ t later, Relation.ReflTransGen Step (s.tick now) t →
        t.env.trace.acceptances = (s.tick now).env.trace.acceptances →
        t.link = .switching target →
        (t.tick later).env.trace.indication = some (.modeSwitched target) →
        (∀ k ticket, (s.tick now).device.slots.get k = some ticket →
          t.device.slots.get k = some ticket) ∧
        (target.active = true → Resumes target t (t.attend later)) ∧
        (target = .inactive → Retires t (t.tick later)) := by
  obtain ⟨c, -, run⟩ := h.run
  have begun := suspends_tick run accepted
  refine ⟨begun, fun t later steps still link told => ?_⟩
  have run' := run_steps steps (run_step (.tick s now) run)
  refine ⟨fun k ticket get => ?_, resumes_attend run' link told, ?_⟩
  · have own : k ≠ .getMode := by
      rintro rfl
      refine begun.answered (mem_outstanding.2 ?_)
      rw [Slots.isOpen, get]
      rfl
    exact ((retains_of_steps steps).still still link).2 k ticket own get
  · rintro rfl
    exact retires_tick run' link told

end Session

/-! ## A frame that is interrupted -/

namespace Bench

open Session

/-- A device in COM1 whose frame, with a new identity, is about to fail. -/
def failing : Session Bench :=
  ((linked.setIdent ⟨1, 2, 3⟩).2.mapHost fun b => { b with wire.failTransfers := 1 }).tick 3000

/-- The same device when the host has sent an event, and has asked for a mode and about it. -/
def interrupted (target : Mode) : Session Bench :=
  ((failing.sendEvent 7).2.setMode target).2.getMode.2

theorem reach_failing : Reach failing :=
  ((reach_linked.submit ⟨.setIdent, ⟨1, 2, 3⟩⟩ nofun).step (.mapHost ..)).tick 3000

theorem reach_interrupted (target : Mode) : Reach (interrupted target) :=
  ((reach_failing.submit ⟨.event, 7⟩ nofun).submit ⟨.setMode, target⟩ nofun).submit
    ⟨.getMode, ()⟩ nofun

end Bench

/-- The frame waits to be sent once more when the switch begins. In COM2 the event and the identity
wait for a frame again. In SIO the event fails, and the identity is set. -/
theorem Session.requests_across_switch_interrupted :
    let s := Bench.interrupted .com2
    let t := Bench.interrupted .inactive
    let done := (t.tick 4000).tick 5000
    Reach s ∧ Reach t ∧ (s.attend 4000).link = .active .com1 ∧
      (s.attend 4000).device.riding = some .setIdent ∧
      Suspends .com2 (s.attend 4000) (s.tick 4000) ∧
      Resumes .com2 (s.tick 4000) ((s.tick 4000).attend 5000) ∧
      ((s.tick 4000).attend 5000).outstanding = [.setIdent, .event] ∧
      Suspends .inactive (t.attend 4000) (t.tick 4000) ∧
      Retires (t.tick 4000) done ∧
      done.env.trace.confirmations =
        [(.setIdent, .ok none), (.setMode, .ok (some [0])), (.event, .error .notReady)] ++
          (t.tick 4000).env.trace.confirmations := by
  intro s t done
  have reach : Reach s := Bench.reach_interrupted .com2
  have reach' : Reach t := Bench.reach_interrupted .inactive
  obtain ⟨_, -, run⟩ := reach.run
  obtain ⟨_, -, run'⟩ := reach'.run
  have begun : (s.tick 4000).env.trace.calls = .modeSet .com2 true :: s.env.trace.calls :=
    eq_of_last_call run 4000 (by decide +kernel)
      (show _ = some (.inl .com2, true) by decide +kernel) rfl
  have begun' : (t.tick 4000).env.trace.calls = .modeSet .inactive true :: t.env.trace.calls :=
    eq_of_last_call run' 4000 (by decide +kernel)
      (show _ = some (.inl .inactive, true) by decide +kernel) rfl
  obtain ⟨suspends, switched⟩ := reach.requests_across_switch begun
  obtain ⟨suspends', switched'⟩ := reach'.requests_across_switch begun'
  obtain ⟨-, resumes, -⟩ := switched _ 5000 .refl rfl suspends.link (by decide +kernel)
  obtain ⟨-, -, retires⟩ := switched' _ 5000 .refl rfl suspends'.link (by decide +kernel)
  exact ⟨reach, reach', by decide +kernel, by decide +kernel, suspends, resumes rfl,
    by decide +kernel, suspends', retires rfl, by decide +kernel⟩

end Sdci
