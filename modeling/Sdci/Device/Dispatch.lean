import Sdci.Device.State

/-! # The dispatch work of a tick

What a device does of its own accord once indications and timers are served: it answers get-mode,
starts a mode switch, answers parameter requests from its store while there is no link, and
otherwise sends the next frame.

* `Device.choose`: the frame of the next exchange. A frame that awaits another attempt comes first,
  then an input update, then the most urgent service, and else the current input data.
* `Session.exchange`: offers that frame to the transceiver.
* `Session.dispatch`: the work of the present state.
-/

namespace Sdci
set_option autoImplicit false

/-! ## Choosing a frame -/

/-- What the next exchange is to do. -/
inductive Choice
  /-- Send the kept frame once more. -/
  | again (kept : InFlight)
  /-- Send a new frame. -/
  | fresh (frame : InFlight)
  /-- Fail the input update, which has become too long for the link. -/
  | tooLong (length : Nat) (cause : Failure)

namespace Device

/-- The payload of the service frame that carries a request. -/
def payload (d : Device) : Request → Octets
  | ⟨.event, code⟩ => split16 code
  | ⟨.access, answer⟩ => answer.encode
  | request => d.store.payload request

/-- The frame that carries a request of the out-of-cycle kinds. -/
def serviceFrame (d : Device) (request : Request) : InFlight :=
  ⟨.service request.kind (d.payload request), some request.kind⟩

/-- The frame that carries the input data as they are. -/
def cyclicFrame (d : Device) : InFlight :=
  ⟨.processData d.images.input.valid d.images.input.data, none⟩

def choose (d : Device) : Choice :=
  match d.inFlight with
  | some kept => .again kept
  | none =>
    match d.slots.pending .input with
    | some ticket =>
      match d.images.input.check ticket.payload.length with
      | .ok () => .fresh ⟨.processData true ticket.payload, some .input⟩
      | .error cause => .tooLong ticket.payload.length cause
    | none =>
      match d.slots.nextOutOfCycle with
      | some request => .fresh (d.serviceFrame request)
      | none => .fresh d.cyclicFrame

/-- The device once the transceiver has taken a frame. -/
def launch (d : Device) (out : InFlight) : Device :=
  { d with
    slots := match out.carries with
      | some kind => d.slots.mark kind true
      | none => d.slots
    cycles := d.cycles.sent out.frame.processData?
    inFlight := some out }

end Device

namespace Session

variable {σ : Type}

/-! ## Exchanges -/

/-- Hands a frame to the transceiver. A frame that is refused leaves the device as it was. -/
def send [Transceiver σ] (s : Session σ) (out : InFlight) (now : Nat) : Session σ :=
  let answer := s.env.transfer out.frame.encode
  let s := { s with env := answer.2 }
  if answer.1 then
    ((s.update (·.launch out)).advance .transferAccepted).startTimer .transfer
      s.device.config.transferTimeout now
  else s.note .transceiverBusy

def exchange [Transceiver σ] [Application σ] (s : Session σ) (now : Nat) : Session σ :=
  match s.device.choose with
  | .again kept => (s.note (.resending (s.device.retries.count.toNat + 1))).send kept now
  | .fresh frame => s.send frame now
  | .tooLong length cause => (s.note (.inputTooLong length)).finish .input (.error cause)

/-! ## Requests served without a frame -/

section Local

variable [Application σ]

/-- The mode is known without asking anyone. -/
def serveMode (s : Session σ) : Session σ :=
  if s.device.slots.isPending .getMode then
    s.finish .getMode (.ok (some [s.device.line.mode.code]))
  else s

/-- Answers one request from the store. -/
def serveLocally (s : Session σ) (request : Request) : Session σ :=
  let served := s.device.store.serve request
  ((s.update fun d => { d with store := served.2 }).note (.servedLocally request.kind)).finish
    request.kind served.1

theorem slots_serveLocally (s : Session σ) (request : Request) :
    (s.serveLocally request).device.slots = s.device.slots.close request.kind := by
  simp [serveLocally, device_finish]

/-- Answers all pending requests that would travel as service frames, the most urgent first. -/
def serveAllLocally (s : Session σ) : Session σ :=
  match _next : s.device.slots.nextOutOfCycle with
  | none => s
  | some request => (s.serveLocally request).serveAllLocally
termination_by s.device.slots.count
decreasing_by
  have := Slots.count_close _ (Slots.isOpen_of_nextOutOfCycle _next)
  rw [slots_serveLocally]
  omega

end Local

/-! ## Mode switches -/

section Switching

variable [Transceiver σ] [Application σ]

/-- The device side of an accepted switch: whatever was under way on the old link is dropped, and
its requests wait for the new one. -/
def beginSwitch (s : Session σ) (target : Mode) (now : Nat) : Session σ :=
  ((((s.note (.switchingTo target)).update Device.abandon).update fun d =>
    { d with slots := d.slots.requeue.mark .setMode true }).advance
      (.modeSetAccepted target)).startTimer .modeSwitch s.device.config.modeSwitchTimeout now

/-- Nothing left over from a fault survives into a new link. -/
def clearFault (s : Session σ) : Session σ :=
  if s.device.link = .fault then
    s.failWhere .notReady fun kind => kind != .setMode && kind != .getMode
  else s

/-- Asks the transceiver for a mode, and begins the switch if it accepts. -/
def switchTo (s : Session σ) (target : Mode) (now : Nat) : Session σ :=
  let answer := s.device.line.setMode target s.env
  let s := s.onLine fun _ _ => answer.2
  if answer.1 then s.beginSwitch target now else s.finish .setMode (.error .badParameter)

/-- The mode that a request waits for. -/
def wanted (s : Session σ) : Option Mode := (s.device.slots.pending .setMode).map (·.payload)

/-! ## Dispatch -/

/-- The work of a state; nothing is begun while a confirmation or an answer is awaited. -/
def dispatch (s : Session σ) (now : Nat) : Session σ :=
  let s := s.serveMode
  match s.device.link, s.wanted with
  | .inactive, some target | .active _, some target | .fault, some target =>
    s.clearFault.switchTo target now
  | .inactive, none => s.serveAllLocally
  | .active _, none => s.exchange now
  | .fault, none | .switching _, _ | .transferring _, _ => s

end Switching

end Session

end Sdci
