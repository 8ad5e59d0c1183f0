import Sdci.Device.Dispatch
import Sdci.Device.Receive

/-! # Running a device

The whole interface of a device to its host.

* `Session.create`: a device in SIO, if its configuration is valid.
* `Session.tick`: one step: at most one indication, then every timer that is due, then the dispatch
  work.
* `Session.submit`: a request. It is opened, or its rejection is confirmed at once;
  `Device.admits` is the rule.
* `Session.setIdent` to `Session.sendEvent`: the requests a host can make.
-/

namespace Sdci
set_option autoImplicit false

/-! ## Requests -/

/-- Whether a request may be opened. A kind that is busy is refused whatever else is wrong. -/
def Device.admits (d : Device) (r : Request) : Except Failure Unit :=
  if d.slots.isOpen r.kind then .error .notReady
  else match r with
    | ⟨.setMode, _⟩ | ⟨.getMode, _⟩ => .ok ()
    | ⟨.input, data⟩ =>
      if !d.link.available then .error .notReady
      else if (d.limits d.link.effectiveMode).1 < data.length then .error .overflow
      else .ok ()
    | ⟨.event, _⟩ => if d.link.available then .ok () else .error .notReady
    | request => if d.link = .fault then .error .notReady else Store.check request

namespace Session

variable {σ : Type}

section Requests

variable [Application σ]

/-- Opens a request. -/
def opened (s : Session σ) (r : Request) : Session σ :=
  (s.update fun d => { d with slots := d.slots.place r d.lastTick }).note
    (.requestAccepted r.kind s.device.link)

/-- Turns a request down. -/
def rejected (s : Session σ) (r : Request) (cause : Failure) : Session σ :=
  { s with env := (s.env.note (.requestRejected r.kind cause)).confirm r.kind (.error cause) }

def submit (s : Session σ) (r : Request) : Except Failure Unit × Session σ :=
  let answer := s.device.admits r
  let s := s.enter (.requested r answer)
  (answer, match answer with
    | .ok () => s.opened r
    | .error cause => s.rejected r cause)

def setIdent (s : Session σ) (ident : Ident) := s.submit ⟨.setIdent, ident⟩

def getIdent (s : Session σ) := s.submit ⟨.getIdent, ()⟩

def setCom (s : Session σ) (com : Com) := s.submit ⟨.setCom, com⟩

def getCom (s : Session σ) := s.submit ⟨.getCom, ()⟩

def setMode (s : Session σ) (mode : Mode) := s.submit ⟨.setMode, mode⟩

def getMode (s : Session σ) := s.submit ⟨.getMode, ()⟩

/-- Asks for new input process data. -/
def setInput (s : Session σ) (data : Octets) := s.submit ⟨.input, data⟩

/-- Asks for an event to be reported to the master. -/
def sendEvent (s : Session σ) (code : UInt16) := s.submit ⟨.event, code⟩

end Requests

/-! ## Steps -/

def create (id : DeviceId) (config : Config) (host : σ) : Except Failure (Session σ) := do
  config.check
  return note ⟨.ofConfig config, { device := id, host }⟩ .created

section Ticking

variable [Transceiver σ] [Application σ]

/-- Enters a new step. -/
def enterTick (s : Session σ) (now : Nat) : Session σ :=
  (s.update fun d => { d with lastTick := now }).enter (.ticked now)

/-- Takes one indication from the transceiver, if there is one, and handles it. -/
def poll (s : Session σ) (now : Nat) : Session σ :=
  let polled := s.env.poll
  let s := { s with env := polled.2 }
  match polled.1 with
  | some indication => s.receive indication now
  | none => s

def tick (s : Session σ) (now : Nat) : Session σ :=
  (((s.enterTick now).poll now).expireTimers now).dispatch now

end Ticking

/-! ## What a host can see -/

def link (s : Session σ) : Link := s.device.link

/-- The mode of the last switch that was confirmed. -/
def mode (s : Session σ) : Mode := s.device.line.mode

def nextDeadline (s : Session σ) : Option Nat := s.device.line.timers.nextDeadline

/-- The kinds of the requests that await their confirmation. -/
def outstanding (s : Session σ) : List Service := s.device.slots.openKinds

/-- The trace, earliest first, and the session with an empty one. -/
def drain (s : Session σ) : List Event × Session σ :=
  (s.env.drain.1, { s with env := s.env.drain.2 })

/-- Changes the host between two steps of the device. -/
def mapHost (s : Session σ) (f : σ → σ) : Session σ :=
  { s with env := { s.env with host := f s.env.host } }

end Session

end Sdci
