import Sdci.Device.Fault
import Sdci.Frame.Master

/-! # What the transceiver and the timers report

* `Session.receive`: one indication. Completions and failures count only while an exchange is in
  progress, confirmations only while a mode switch is.
* `Session.receiveMaster`: a valid master frame closes the exchange: the request that rode on it is
  confirmed, output data and control codes go to the application, a parameter access is served.
* `Session.timeout`: one expired timer.
* `Session.expireTimers`: all timers that are due.
-/

namespace Sdci.Session
set_option autoImplicit false

variable {σ : Type} [Application σ]

/-! ## Mode switches -/

/-- Starts the supervision of cycles, if the configuration asks for it. -/
def superviseCycles (s : Session σ) (now : Nat) : Session σ :=
  if s.device.config.maxCycleTime = 0 then s
  else s.startTimer .maxCycle s.device.config.maxCycleTime now

/-- The link in a confirmed mode: new limits, the supervision of cycles, or the end of what needs
a link, and the end of the request. -/
def establish (s : Session σ) (mode : Mode) (now : Nat) : Session σ :=
  let limits := s.device.limits mode
  let s := (s.advance (.modeConfirmed mode)).update fun d =>
    { d with images := d.images.setLimits limits.1 limits.2, retries := d.retries.reset }
  let s :=
    if mode.active then (s.superviseCycles now).note (.linkEstablished mode limits.1 limits.2)
    else s.failWhere .notReady Service.needsLink
  s.finish .setMode (.ok (some [mode.code]))

/-- The transceiver runs in another mode than the one asked for. -/
def rejectMode (s : Session σ) (mode target : Mode) : Session σ :=
  (s.note (.wrongMode mode target)).enterFault .protocol

def modeSwitched (s : Session σ) (mode : Mode) (now : Nat) : Session σ :=
  match s.device.link with
  | .switching target =>
    let s := s.stopTimer .modeSwitch
    if mode = target then
      let committed := s.device.line.commit mode s.env
      let s := s.onLine fun _ _ => committed.2
      if committed.1 then s.establish mode now else s.rejectMode mode target
    else s.rejectMode mode target
  | link => s.note (.confirmationIgnored mode link)

/-! ## Exchanges -/

/-- Confirms the request of a kind as carried by the frame just answered. -/
def complete (s : Session σ) (kind : Service) : Session σ :=
  match s.device.slots.request? kind with
  | none => s
  | some ⟨.input, data⟩ =>
    match s.device.images.input.store data with
    | .ok input =>
      (s.update fun d => { d with images := { d.images with input } }).finish kind (.ok none)
    | .error cause => s.finish kind (.error cause)
  | some ⟨.event, code⟩ => (s.note (.eventDelivered code)).finish kind (.ok none)
  | some ⟨.access, answer⟩ => s.finish kind answer.outcome
  | some request =>
    let completed := s.device.store.complete request
    (s.update fun d => { d with store := completed.2 }).finish kind completed.1

/-- The frame in flight has been answered: it is dropped, and its request is confirmed. -/
def settle (s : Session σ) : Session σ :=
  match s.device.inFlight.bind InFlight.carries with
  | some kind => (s.update fun d => { d with inFlight := none }).complete kind
  | none => s.update fun d => { d with inFlight := none }

/-- The bookkeeping of a successful exchange. -/
def succeed (s : Session σ) (output : Octets) (now : Nat) : Session σ :=
  let s := (s.update fun d =>
    { d with
      retries := d.retries.reset
      line :=
        if d.config.maxCycleTime = 0 then d.line
        else d.line.restartTimer .maxCycle d.config.maxCycleTime now }).advance .transferSucceeded
  s.update fun d =>
    { d with
      images := { d.images with input := d.images.input.validate true }
      cycles := d.cycles.received output }

/-- Empty output data are not worth offering. -/
def deliver (s : Session σ) (data : Octets) : Session σ :=
  if data.isEmpty then s else s.onImages fun images env => (images.deliver data env).2

def receiveControl (s : Session σ) : Option Control → Session σ
  | none => s
  | some code => s.onImages fun images env => images.receiveControl code env

def offerControl (s : Session σ) : Session σ :=
  s.onImages fun images env => (images.offerControl env).2

/-- Serves a parameter access, unless the answer to the previous one is still open. -/
def accept (s : Session σ) (now : Nat) : Option Access → Session σ
  | none => s
  | some access =>
    if s.device.slots.isOpen .access then
      s.note (.accessIgnored access.index access.subindex)
    else
      let served := access.serve s.env
      { device := { s.device with slots := s.device.slots.place ⟨.access, served.1⟩ now },
        env := served.2 }

def cycle (s : Session σ) : Session σ := { s with env := s.env.cycle }

def receiveMaster (s : Session σ) (master : MasterFrame) (now : Nat) : Session σ :=
  match s.device.images.output.check master.output.length with
  | .error _ =>
    (s.note (.outputTooLong master.output.length s.device.images.output.maxLength)).enterFault
      .overflow
  | .ok () =>
    (((((s.succeed master.output now).settle.deliver master.output).receiveControl
      master.control).offerControl).accept now master.access).cycle

def transferComplete (s : Session σ) (frame : Octets) (now : Nat) : Session σ :=
  if s.device.link.isTransferring then
    let s := (s.stopTimer .transfer).note (.received frame)
    match MasterFrame.decode frame with
    | .ok master => s.receiveMaster master now
    | .error cause => if cause.recoverable then s.recover cause else s.enterFault cause
  else s.note (.completionIgnored s.device.link)

def transferFailed (s : Session σ) (fault : LineFault) : Session σ :=
  if s.device.link.isTransferring then (s.stopTimer .transfer).recover fault.failure
  else s.note (.failureIgnored fault s.device.link)

/-! ## Indications -/

def receive (s : Session σ) (indication : Indication) (now : Nat) : Session σ :=
  match indication with
  | .modeSwitched mode => s.modeSwitched mode now
  | .transferComplete frame => s.transferComplete frame now
  | .transferFailed fault => s.transferFailed fault
  | .hardwareFault => s.enterFault .hardware

/-! ## Timers -/

/-- What an expired timer means in the present state of the link. -/
def timeout (s : Session σ) (timer : Timer) : Session σ :=
  match timer, s.device.link with
  | .modeSwitch, .switching target => (s.note (.switchTimedOut target)).enterFault .timeout
  | .transfer, .transferring _ => s.recover .timeout
  | .maxCycle, .active _
  | .maxCycle, .transferring _ => (s.note .cycleTimedOut).enterFault .timeout
  | timer, link => s.note (.timerIgnored timer link)

/-- No expired timer starts another one. -/
theorem line_timeout (s : Session σ) (timer : Timer) :
    (s.timeout timer).device.line = s.device.line ∨
      (s.timeout timer).device.line = s.device.line.stopAllTimers := by
  unfold timeout
  split
  · exact Or.inr (by simp)
  · exact line_recover s .timeout
  · exact Or.inr (by simp)
  · exact Or.inr (by simp)
  · exact Or.inl rfl

/-- Takes an expired timer off and serves it. -/
def serveTimer (s : Session σ) (timer : Timer) : Session σ :=
  ((s.enter (.expired timer)).stopTimer timer).timeout timer

theorem timers_serveTimer (s : Session σ) (timer : Timer) :
    (s.serveTimer timer).device.line.timers = s.device.line.timers.stop timer ∨
      (s.serveTimer timer).device.line.timers = {} := by
  rcases line_timeout ((s.enter (.expired timer)).stopTimer timer) timer with h | h
  · exact Or.inl (by unfold serveTimer; rw [h]; rfl)
  · exact Or.inr (by unfold serveTimer; rw [h]; rfl)

theorem count_serveTimer {s : Session σ} {timer : Timer}
    (h : s.device.line.timers.isRunning timer) :
    (s.serveTimer timer).device.line.timers.count < s.device.line.timers.count := by
  have := Timers.count_stop _ h
  rcases timers_serveTimer s timer with e | e <;> rw [e]
  · omega
  · rw [Timers.count_empty]
    omega

/-- Serves every timer that is due, one after the other. -/
def expireTimers (s : Session σ) (now : Nat) : Session σ :=
  match _due : s.device.line.timers.due? now with
  | none => s
  | some timer => (s.serveTimer timer).expireTimers now
termination_by s.device.line.timers.count
decreasing_by exact count_serveTimer (Timers.isRunning_of_due _due)

end Sdci.Session
