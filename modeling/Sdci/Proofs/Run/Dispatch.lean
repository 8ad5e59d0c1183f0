import Mathlib.Logic.Relation
import Sdci.Proofs.Run.Receive

/-! # Dispatch and requests as moves

The rest of what a host can cause: the dispatch work of a tick, and requests. With them the device
of every session, and its history, come from moves alone.

* `Session.Works`: the dispatch work, once get-mode is answered.
* `Session.performs_dispatch`: the dispatch work of a tick.
* `Session.makes_submit`: a request, one move.
* `Session.Reach.run`: all steps since the creation.
-/

namespace Sdci
set_option autoImplicit false

namespace Session

open Device

variable {σ : Type}

/-! ## Creation -/

theorem run_create {id : DeviceId} {config : Config} {host : σ} {s : Session σ}
    (h : create id config host = .ok s) :
    config.check = .ok () ∧ Run config s.device s.env.trace.bare := by
  unfold create at h
  cases check : config.check with
  | error cause =>
    rw [check] at h
    cases h
  | ok =>
    rw [check] at h
    cases h
    exact ⟨rfl, .start⟩

/-! ## Frames and mode switches -/

theorem device_beginSwitch {s u : Session σ} {target : Mode} (idle : s.device.link.idle = true)
    (device : u.device = { s.device with
      slots := s.device.survivors
      line := { s.device.line with requested := some target } }) :
    (u.beginSwitch target s.device.lastTick).device = s.device.switched target := by
  have next : s.device.link.next (.modeSetAccepted target) = .switching target := by
    cases link : s.device.link <;> simp_all [Link.next, Link.idle]
  unfold beginSwitch
  rw [device_startTimer, device_advance, device_update, device_update, device_note, device]
  simp [abandon, switched, next, Line.restartTimer, Line.stopAllTimers, Timers.stopAll]

theorem bare_beginSwitch (s : Session σ) (target : Mode) (now : Nat) :
    (s.beginSwitch target now).env.trace.bare =
      .linkEvent s.device.link (.modeSetAccepted target) :: s.env.trace.bare :=
  (bare_startTimer ..).trans ((bare_advance ..).trans (congrArg _ (Env.bare_note rfl)))

section Transceiver

variable [Transceiver σ]

theorem makes_send {s : Session σ} {e : Env σ} {mode : Mode} {out : InFlight}
    (unhurried : s.device.Unhurried) (link : s.device.link = .active mode)
    (chosen : s.device.choose = .again out ∨ s.device.choose = .fresh out)
    (trace : e.trace.bare = s.env.trace.bare) :
    Makes .work s (send ⟨s.device, e⟩ out s.device.lastTick) := by
  have sent := e.bare_transfer out.frame.encode
  rw [trace] at sent
  unfold send
  dsimp only
  split
  · rename_i accepted
    rw [accepted] at sent
    refine .of_move (.launch unhurried link chosen) ?_ ?_
    · rw [device_startTimer, device_advance]
      change { s.device.launched mode out with link := s.device.link.next .transferAccepted } = _
      rw [link]
      rfl
    · exact (bare_startTimer ..).trans ((bare_advance ..).trans (congrArg _ sent))
  · rename_i refused
    rw [Bool.not_eq_true] at refused
    rw [refused] at sent
    exact .of_move (.busy unhurried link chosen) rfl ((Env.bare_note rfl).trans sent)

end Transceiver

variable [Application σ]

/-! ## Requests -/

theorem makes_submit (s : Session σ) {r : Request} (own : r.kind ≠ .access) :
    Makes .call s (s.submit r).2 := by
  have entered : (s.enter (.requested r (s.device.admits r))).env.trace.bare =
      .requested r (s.device.admits r) :: s.env.trace.bare := Env.bare_enter rfl
  unfold submit
  dsimp only
  cases admission : s.device.admits r with
  | ok =>
    rw [admission] at entered
    exact .of_move (.grant own admission) rfl ((Env.bare_note rfl).trans entered)
  | error cause =>
    rw [admission] at entered
    obtain ⟨a, h⟩ := ((s.enter (.requested r (.error cause))).env.note
      (.requestRejected r.kind cause)).bare_confirm r.kind (.error cause)
    exact .of_move (.refuse a own admission) rfl
      (h.trans (congrArg _ ((Env.bare_note rfl).trans entered)))

/-! ## Requests served without a frame -/

/-- Only the slots change, so no timer becomes due meanwhile. -/
theorem device_serveMode (s : Session σ) :
    s.serveMode.device = { s.device with slots := s.serveMode.device.slots } := by
  unfold serveMode
  split
  · rw [device_finish]
  · rfl

theorem performs_serveMode {s : Session σ}
    (quiet : s.device.line.timers.due? s.device.lastTick = none) :
    Performs .work s s.serveMode := by
  unfold serveMode
  split
  · rename_i pending
    obtain ⟨a, h⟩ := bare_finish_open (Slots.isOpen_of_isPending pending)
      (.ok (some [s.device.line.mode.code]))
    exact (Makes.of_move (.answerMode a quiet pending) (device_finish ..) h).performs
  · exact .refl _ s

theorem device_serveLocally (s : Session σ) (request : Request) :
    (s.serveLocally request).device =
      { s.device with
        store := (s.device.store.serve request).2
        slots := s.device.slots.close request.kind } :=
  device_finish ..

theorem bare_serveLocally (s : Session σ) {request : Request}
    (isOpen : s.device.slots.isOpen request.kind = true) :
    ∃ a, (s.serveLocally request).env.trace.bare =
      .confirmed request.kind (s.device.store.serve request).1 a :: s.env.trace.bare := by
  obtain ⟨a, trace⟩ := bare_finish_open (s := (s.update fun d => { d with
    store := (s.device.store.serve request).2 }).note (.servedLocally request.kind)) isOpen
    (s.device.store.serve request).1
  rw [note, Env.bare_note rfl] at trace
  exact ⟨a, trace⟩

theorem serveAllLocally_of_none {s : Session σ} (none : s.device.slots.nextOutOfCycle = none) :
    s.serveAllLocally = s := by
  rw [serveAllLocally]
  split
  · rfl
  · rename_i request next
    cases none.symm.trans next

theorem serveAllLocally_of_next {s : Session σ} {request : Request}
    (next : s.device.slots.nextOutOfCycle = some request) :
    s.serveAllLocally = (s.serveLocally request).serveAllLocally := by
  rw [serveAllLocally]
  split
  · rename_i none
    cases next.symm.trans none
  · rename_i other next'
    obtain rfl := Option.some.inj (next.symm.trans next')
    rfl

theorem performs_serveAllLocally (s : Session σ) (unhurried : s.device.Unhurried)
    (link : s.device.link = .inactive) : Performs .work s s.serveAllLocally := by
  fun_induction serveAllLocally s with
  | case1 s next => exact .refl _ s
  | case2 s request next ih =>
    have device := s.device_serveLocally request
    have served : Makes .work s (s.serveLocally request) := by
      obtain ⟨a, trace⟩ := s.bare_serveLocally (Slots.isOpen_of_nextOutOfCycle next)
      exact .of_move (.serve a unhurried link next) device trace
    refine served.performs.trans (ih ?_ ?_)
    · rw [device]
      exact ⟨unhurried.quiet, Slots.pending_close_eq_none unhurried.settled _⟩
    · rw [device]
      exact link

/-! ## Dispatch -/

theorem device_clearFault (s : Session σ) :
    s.clearFault.device = { s.device with slots := s.device.survivors } := by
  unfold clearFault survivors
  split <;> rfl

theorem bare_clearFault (s : Session σ) :
    ∃ es, Confirms (.error .notReady) s.device.leftovers es ∧
      s.clearFault.env.trace.bare = es ++ s.env.trace.bare := by
  unfold clearFault leftovers
  split
  · exact bare_failWhere ..
  · exact ⟨[], .nil, rfl⟩

variable [Transceiver σ]

theorem makes_exchange {s : Session σ} {mode : Mode} (unhurried : s.device.Unhurried)
    (link : s.device.link = .active mode) :
    Makes .work s (s.exchange s.device.lastTick) := by
  unfold exchange
  split
  · rename_i kept chosen
    exact makes_send unhurried link (.inl chosen) (Env.bare_note rfl)
  · rename_i frame chosen
    exact makes_send unhurried link (.inr chosen) rfl
  · rename_i length cause chosen
    obtain ⟨a, h⟩ := bare_finish_open (s := s.note (.inputTooLong length))
      (isOpen_of_tooLong chosen) (.error cause)
    rw [note, Env.bare_note rfl] at h
    exact .of_move (.drop a unhurried link chosen) (device_finish ..) h

theorem device_switchTo (s : Session σ) (target : Mode) (idle : s.device.link.idle = true) :
    (s.clearFault.switchTo target s.device.lastTick).device =
      if (s.clearFault.env.setMode target).1 then s.device.switched target
      else { s.device with slots := s.device.survivors.close .setMode } := by
  have device := s.device_clearFault
  unfold switchTo Line.setMode
  dsimp only
  split
  · refine device_beginSwitch idle ?_
    change { s.clearFault.device with
      line := { s.clearFault.device.line with requested := some target } } = _
    rw [device]
  · rw [device_finish]
    change { s.clearFault.device with slots := s.clearFault.device.slots.close .setMode } = _
    rw [device]

theorem makes_switchTo {s : Session σ} {ticket : Ticket .setMode}
    (quiet : s.device.line.timers.due? s.device.lastTick = none) (idle : s.device.link.idle = true)
    (pending : s.device.slots.pending .setMode = some ticket) :
    Makes .work s (s.clearFault.switchTo ticket.payload s.device.lastTick) := by
  obtain ⟨es, lost, cleared⟩ := s.bare_clearFault
  have cleaned := s.device_clearFault
  have device := s.device_switchTo ticket.payload idle
  have asked := s.clearFault.env.bare_setMode ticket.payload
  rw [cleared] at asked
  cases accepted : (s.clearFault.env.setMode ticket.payload).1 with
  | true =>
    rw [accepted] at asked
    rw [accepted, if_pos rfl] at device
    refine .of_move (.switch quiet idle pending lost) device ?_
    unfold switchTo Line.setMode
    dsimp only
    rw [if_pos accepted]
    refine (bare_beginSwitch ..).trans ?_
    change .linkEvent s.clearFault.device.link _ :: (s.clearFault.env.setMode _).2.trace.bare = _
    rw [cleaned, asked]
    rfl
  | false =>
    rw [accepted] at asked
    rw [accepted, if_neg Bool.false_ne_true] at device
    have isOpen : s.clearFault.device.slots.isOpen .setMode = true := by
      rw [cleaned]
      exact isOpen_survivors pending
    obtain ⟨a, h⟩ := bare_finish_open (s := s.clearFault.onLine fun _ _ =>
      (s.clearFault.device.line, (s.clearFault.env.setMode ticket.payload).2)) isOpen
      (.error .badParameter)
    refine .of_move (.refuseMode a quiet idle pending lost) device ?_
    unfold switchTo Line.setMode
    dsimp only
    rw [if_neg (by simp [accepted]), if_neg (by simp [accepted])]
    exact h.trans (congrArg _ asked)

/-- The work that follows the answer to get-mode. -/
inductive Works (s : Session σ) (now : Nat) : Session σ → Prop
  | switch {ticket : Ticket .setMode} (idle : s.device.link.idle = true)
      (pending : s.device.slots.pending .setMode = some ticket) :
      Works s now (s.clearFault.switchTo ticket.payload now)
  | serve (link : s.device.link = .inactive) (settled : s.device.slots.pending .setMode = none) :
      Works s now s.serveAllLocally
  | exchange {mode : Mode} (link : s.device.link = .active mode)
      (settled : s.device.slots.pending .setMode = none) : Works s now (s.exchange now)
  | rest (idle : s.device.link.idle = true →
      s.device.link = .fault ∧ s.device.slots.pending .setMode = none) : Works s now s

theorem works_dispatch (s : Session σ) (now : Nat) : Works s.serveMode now (s.dispatch now) := by
  unfold dispatch
  generalize s.serveMode = u
  have switch {target : Mode} (wanted : u.wanted = some target) (idle : u.device.link.idle = true) :
      Works u now (u.clearFault.switchTo target now) := by
    obtain ⟨ticket, pending, rfl⟩ := Option.map_eq_some_iff.1 wanted
    exact .switch idle pending
  have settled (unwanted : u.wanted = none) : u.device.slots.pending .setMode = none :=
    Option.map_eq_none_iff.1 unwanted
  dsimp only
  split
  · rename_i target link wanted
    exact switch wanted (by rw [link]; rfl)
  · rename_i mode target link wanted
    exact switch wanted (by rw [link]; rfl)
  · rename_i target link wanted
    exact switch wanted (by rw [link]; rfl)
  · rename_i link unwanted
    exact .serve link (settled unwanted)
  · rename_i mode link unwanted
    exact .exchange link (settled unwanted)
  · rename_i link unwanted
    exact .rest fun _ => ⟨link, settled unwanted⟩
  · rename_i target link
    exact .rest fun idle => by rw [link] at idle; cases idle
  · rename_i mode link
    exact .rest fun idle => by rw [link] at idle; cases idle

theorem performs_works {s t : Session σ}
    (quiet : s.device.line.timers.due? s.device.lastTick = none)
    (works : Works s s.device.lastTick t) : Performs .work s t := by
  cases works with
  | switch idle pending => exact (makes_switchTo quiet idle pending).performs
  | serve link settled => exact performs_serveAllLocally s ⟨quiet, settled⟩ link
  | exchange link settled => exact (makes_exchange ⟨quiet, settled⟩ link).performs
  | rest => exact .refl _ s

theorem performs_dispatch (s : Session σ)
    (quiet : s.device.line.timers.due? s.device.lastTick = none) :
    Performs .work s (s.dispatch s.device.lastTick) := by
  have kept := s.device_serveMode
  have time : s.device.lastTick = s.serveMode.device.lastTick := by rw [kept]
  have still : s.serveMode.device.line.timers.due? s.serveMode.device.lastTick = none := by
    rw [kept]
    exact quiet
  have works := s.works_dispatch s.device.lastTick
  rw [time] at works ⊢
  exact (performs_serveMode quiet).trans (performs_works still works)

/-! ## Whole runs -/

theorem performs_tick (s : Session σ) (now : Nat) :
    Makes .call s (s.enterTick now) ∧
    Makes .poll (s.enterTick now) ((s.enterTick now).poll now) ∧
    Performs .expiry ((s.enterTick now).poll now) (((s.enterTick now).poll now).expireTimers now) ∧
    Performs .work (((s.enterTick now).poll now).expireTimers now) (s.tick now) := by
  have entered : Makes .call s (s.enterTick now) :=
    .of_move (.clock s.device now) rfl (Env.bare_enter rfl)
  have polled : Makes .poll (s.enterTick now) ((s.enterTick now).poll now) :=
    (s.enterTick now).makes_poll
  have time : ((s.enterTick now).poll now).device.lastTick = now := polled.performs.lastTick nofun
  have expired := ((s.enterTick now).poll now).performs_expireTimers now time
  have quiet := ((s.enterTick now).poll now).due_expireTimers now
  have time' := (expired.lastTick nofun).trans time
  have worked := (((s.enterTick now).poll now).expireTimers now).performs_dispatch
    (by rw [time']; exact quiet)
  rw [time'] at worked
  exact ⟨entered, polled, expired, worked⟩

theorem run_step {c : Config} {s t : Session σ} (h : Step s t)
    (run : Run c s.device s.env.trace.bare) : Run c t.device t.env.trace.bare := by
  cases h with
  | tick now =>
    obtain ⟨entered, polled, expired, worked⟩ := s.performs_tick now
    exact worked.run (expired.run (polled.performs.run (entered.performs.run run)))
  | submit r own => exact (s.makes_submit own).performs.run run
  | mapHost f => exact run

theorem run_steps {c : Config} {s t : Session σ} (h : Relation.ReflTransGen Step s t)
    (run : Run c s.device s.env.trace.bare) : Run c t.device t.env.trace.bare := by
  induction h with
  | refl => exact run
  | tail before next ih => exact run_step next ih

theorem Reach.run {s : Session σ} (h : Reach s) :
    ∃ c, Config.check c = .ok () ∧ Run c s.device s.env.trace.bare := by
  induction h with
  | create made => exact ⟨_, run_create made⟩
  | step before next ih =>
    obtain ⟨c, check, run⟩ := ih
    exact ⟨c, check, run_step next run⟩

end Session

end Sdci
