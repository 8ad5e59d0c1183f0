import Sdci.Device.Session

/-! # A device keeps its id

The id of a device stands in its environment, where every record of the log takes it from. Nothing a
device does, and no answer of its host, changes it.

* `Env.device_confirm` and so on: the calls of the host.
* `Session.id_tick`, `Session.id_submit`, `Session.id_mapHost`: all that can happen to a device.
* `Session.id_create`: a new device has the id that was asked for.
-/

namespace Sdci
set_option autoImplicit false

/-! ## Calls of the host -/

namespace Env

variable {σ : Type} (e : Env σ)

@[simp] theorem device_transfer [Transceiver σ] (frame : Octets) :
    (e.transfer frame).2.device = e.device := rfl

@[simp] theorem device_poll [Transceiver σ] : e.poll.2.device = e.device := by
  unfold poll
  dsimp only
  split <;> rfl

theorem device_receiveControl (i : Images) (code : Control) :
    (i.receiveControl code e).2.device = e.device := by
  unfold Images.receiveControl
  dsimp only
  split
  · split <;> rfl
  · rfl

variable [Application σ]

@[simp] theorem device_confirm (kind : Service) (outcome : Outcome) :
    (e.confirm kind outcome).device = e.device := by
  obtain ⟨call, rfl⟩ := kind.exists_confirmation
  rw [confirm_kind]
  unfold tell
  dsimp only
  split <;> rfl

theorem device_foldl_confirm (outcome : Outcome) (tickets : List AnyTicket) :
    (tickets.foldl (fun env t => env.confirm t.kind outcome) e).device = e.device := by
  induction tickets generalizing e with
  | nil => rfl
  | cons t rest ih =>
    rw [List.foldl_cons, ih]
    exact device_confirm ..

theorem device_deliver (i : Images) (data : Octets) :
    (i.deliver data e).2.2.device = e.device := by
  unfold Images.deliver
  dsimp only
  split
  · rfl
  · split
    · split <;> rfl
    · rfl

theorem device_offerControl (i : Images) : (i.offerControl e).2.2.device = e.device := by
  unfold Images.offerControl
  split
  · rfl
  · dsimp only
    split <;> rfl

theorem device_serve (a : Access) : (a.serve e).2.device = e.device := by
  have run : (a.run e).2.device = e.device := by cases a <;> rfl
  unfold Access.serve
  dsimp only
  split <;> exact run

end Env

namespace Session

variable {σ : Type} (s : Session σ)

/-! ## The parts of a step -/

@[simp] theorem id_update (f : Device → Device) : (s.update f).id = s.id := rfl

@[simp] theorem id_enter (event : Event) : (s.enter event).id = s.id := rfl

@[simp] theorem id_note (m : Message) : (s.note m).id = s.id := rfl

@[simp] theorem id_startTimer (k : Timer) (duration : UInt32) (now : Nat) :
    (s.startTimer k duration now).id = s.id := rfl

@[simp] theorem id_stopTimer (k : Timer) : (s.stopTimer k).id = s.id := rfl

@[simp] theorem id_advance (event : Link.Event) : (s.advance event).id = s.id := by
  unfold advance
  dsimp only
  split <;> rfl

theorem id_onLine {f : Line → Env σ → Line × Env σ}
    (kept : (f s.device.line s.env).2.device = s.env.device) : (s.onLine f).id = s.id := kept

theorem id_onImages {f : Images → Env σ → Images × Env σ}
    (kept : (f s.device.images s.env).2.device = s.env.device) : (s.onImages f).id = s.id := kept

@[simp] theorem id_superviseCycles (now : Nat) : (s.superviseCycles now).id = s.id := by
  unfold superviseCycles
  split <;> simp

section Application

variable [Application σ]

@[simp] theorem id_finish (kind : Service) (outcome : Outcome) :
    (s.finish kind outcome).id = s.id := by
  unfold finish
  split
  · exact Env.device_confirm ..
  · rfl

@[simp] theorem id_failWhere (cause : Failure) (select : Service → Bool) :
    (s.failWhere cause select).id = s.id :=
  Env.device_foldl_confirm ..

@[simp] theorem id_enterFault (cause : Failure) : (s.enterFault cause).id = s.id := by
  simp [enterFault]

@[simp] theorem id_failExchange (cause : Failure) : (s.failExchange cause).id = s.id := by
  change ((s.update _).advance _).id = s.id
  simp

@[simp] theorem id_recover (cause : Failure) : (s.recover cause).id = s.id := by
  unfold recover
  dsimp only
  split <;> simp

/-! ### Mode switches -/

@[simp] theorem id_establish (mode : Mode) (now : Nat) : (s.establish mode now).id = s.id := by
  unfold establish
  dsimp only
  split <;> simp

@[simp] theorem id_rejectMode (mode target : Mode) : (s.rejectMode mode target).id = s.id := by
  simp [rejectMode]

theorem id_modeSwitched (mode : Mode) (now : Nat) : (s.modeSwitched mode now).id = s.id := by
  have commit (l : Line) (e : Env σ) : (l.commit mode e).2.2.device = e.device := by
    unfold Line.commit
    split <;> rfl
  unfold modeSwitched
  split
  · dsimp only
    split
    · have kept := id_onLine (s.stopTimer .modeSwitch) (f := fun _ _ =>
        ((s.stopTimer .modeSwitch).device.line.commit mode (s.stopTimer .modeSwitch).env).2)
        (commit ..)
      split
      · rw [id_establish, kept, id_stopTimer]
      · rw [id_rejectMode, kept, id_stopTimer]
    · simp
  · simp

/-! ### Exchanges -/

theorem id_complete (kind : Service) : (s.complete kind).id = s.id := by
  unfold complete
  split
  · rfl
  · split <;> simp
  all_goals simp

theorem id_settle : s.settle.id = s.id := by
  unfold settle
  split
  · rw [id_complete, id_update]
  · rfl

theorem id_deliver (data : Octets) : (s.deliver data).id = s.id := by
  unfold deliver
  split
  · rfl
  · exact id_onImages s (Env.device_deliver ..)

omit [Application σ] in
theorem id_receiveControl (code : Option Control) : (s.receiveControl code).id = s.id := by
  cases code with
  | none => rfl
  | some code => exact id_onImages s (Env.device_receiveControl ..)

theorem id_offerControl : s.offerControl.id = s.id := id_onImages s (Env.device_offerControl ..)

theorem id_accept (now : Nat) (access : Option Access) : (s.accept now access).id = s.id := by
  cases access with
  | none => rfl
  | some access =>
    unfold accept
    dsimp only
    split
    · rfl
    · exact Env.device_serve ..

theorem id_receiveMaster (master : MasterFrame) (now : Nat) :
    (s.receiveMaster master now).id = s.id := by
  unfold receiveMaster
  split
  · simp
  · change ((((((s.succeed master.output now).settle).deliver master.output).receiveControl
      master.control).offerControl).accept now master.access).id = s.id
    rw [id_accept, id_offerControl, id_receiveControl, id_deliver, id_settle]
    simp [succeed]

theorem id_transferComplete (frame : Octets) (now : Nat) :
    (s.transferComplete frame now).id = s.id := by
  unfold transferComplete
  dsimp only
  split
  · split
    · rw [id_receiveMaster, id_note, id_stopTimer]
    · split <;> simp
  · rfl

theorem id_transferFailed (fault : LineFault) : (s.transferFailed fault).id = s.id := by
  unfold transferFailed
  split <;> simp

theorem id_receive (indication : Indication) (now : Nat) :
    (s.receive indication now).id = s.id := by
  cases indication with
  | modeSwitched mode => exact id_modeSwitched ..
  | transferComplete frame => exact id_transferComplete ..
  | transferFailed fault => exact id_transferFailed ..
  | hardwareFault => exact id_enterFault ..

/-! ### Timers -/

theorem id_serveTimer (timer : Timer) : (s.serveTimer timer).id = s.id := by
  unfold serveTimer timeout
  split <;> simp only [id_enterFault, id_recover, id_note, id_stopTimer, id_enter]

theorem id_expireTimers (now : Nat) : (s.expireTimers now).id = s.id := by
  fun_induction expireTimers s now with
  | case1 => rfl
  | case2 s timer due ih => rw [ih, id_serveTimer]

/-! ### Dispatch -/

theorem id_serveMode : s.serveMode.id = s.id := by
  unfold serveMode
  split <;> simp

theorem id_serveAllLocally : s.serveAllLocally.id = s.id := by
  fun_induction serveAllLocally s with
  | case1 => rfl
  | case2 s request next ih =>
    rw [ih]
    simp [serveLocally]

variable [Transceiver σ]

omit [Application σ] in
theorem id_send (out : InFlight) (now : Nat) : (s.send out now).id = s.id := by
  have kept : ({ s with env := (s.env.transfer out.frame.encode).2 } : Session σ).id = s.id :=
    Env.device_transfer ..
  unfold send
  dsimp only
  split
  · rw [id_startTimer, id_advance, id_update, kept]
  · rw [id_note, kept]

theorem id_exchange (now : Nat) : (s.exchange now).id = s.id := by
  unfold exchange
  split
  · rw [id_send, id_note]
  · rw [id_send]
  · simp

omit [Transceiver σ] in
theorem id_clearFault : s.clearFault.id = s.id := by
  unfold clearFault
  split <;> simp

theorem id_switchTo (target : Mode) (now : Nat) : (s.switchTo target now).id = s.id := by
  have kept := id_onLine s (f := fun _ _ => (s.device.line.setMode target s.env).2) rfl
  unfold switchTo
  dsimp only
  split
  · unfold beginSwitch
    rw [id_startTimer, id_advance, id_update, id_update, id_note, kept]
  · rw [id_finish, kept]

theorem id_dispatch (now : Nat) : (s.dispatch now).id = s.id := by
  rw [← id_serveMode s]
  unfold dispatch
  dsimp only
  split
  all_goals first
    | rfl
    | rw [id_switchTo, id_clearFault]
    | rw [id_serveAllLocally]
    | rw [id_exchange]

/-! ## Steps -/

@[simp] theorem id_tick (now : Nat) : (s.tick now).id = s.id := by
  have polled : ((s.enterTick now).poll now).id = s.id := by
    have kept : ({ s.enterTick now with env := (s.enterTick now).env.poll.2 } : Session σ).id =
      s.id := Env.device_poll _
    unfold poll
    dsimp only
    split
    · rw [id_receive, kept]
    · exact kept
  unfold tick
  rw [id_dispatch, id_expireTimers, polled]

omit [Transceiver σ] in
@[simp] theorem id_submit (r : Request) : (s.submit r).2.id = s.id := by
  unfold submit
  dsimp only
  split
  · rfl
  · exact Env.device_confirm ..

end Application

@[simp] theorem id_mapHost (f : σ → σ) : (s.mapHost f).id = s.id := rfl

theorem id_create {id : DeviceId} {config : Config} {host : σ} {s : Session σ}
    (made : create id config host = .ok s) : s.id = id := by
  unfold create at made
  cases check : config.check with
  | error cause =>
    rw [check] at made
    cases made
  | ok =>
    rw [check] at made
    cases made
    rfl

end Session

end Sdci
