import Sdci.Config
import Sdci.Diagnosis
import Sdci.Frame.Device
import Sdci.Images
import Sdci.Line
import Sdci.Parameter.Store

/-! # A device and its session

`Device` is all a device remembers. A `Session` is a device together with its host and the trace of
what has passed between them; every step of a device is a function from sessions to sessions.

* `Device.limits`: how much process data each direction may carry in a mode.
* `Device.abandon`: the device without the exchange it was in.
* `Session.advance`: feeds an event to the link and notes a change.
* `Session.finish`, `Session.failWhere`: close requests and confirm them, in the order of
  `Service.all`.
-/

namespace Sdci
set_option autoImplicit false

/-! ## Devices -/

/-- The frame of the current exchange, kept until it is answered. -/
structure InFlight where
  frame : DeviceFrame
  /-- The kind of the request that the frame completes, if any. -/
  carries : Option Service
  deriving DecidableEq

structure Device where
  config : Config
  link : Link := .inactive
  line : Line := {}
  images : Images := .ofLimits 0 0
  store : Store
  slots : Slots := {}
  retries : Retries
  tally : Tally := {}
  cycles : Cycles := {}
  inFlight : Option InFlight := none
  /-- The time of the last tick. -/
  lastTick : Nat := 0

namespace Device

/-- A device in SIO with the parameters of its configuration. -/
def ofConfig (c : Config) : Device where
  config := c
  store := ⟨c.ident, c.com⟩
  retries := { limit := c.maxRetries }

/-- The most input and output data in a mode: what the configuration and the communication
parameters both allow. -/
def limits (d : Device) (m : Mode) : Nat × Nat :=
  (min (d.config.ceiling m) d.store.com.inputLength.toNat,
    min (d.config.ceiling m) d.store.com.outputLength.toNat)

/-- Drops whatever the link was doing: no timer, no frame, no failures, no valid process data. -/
def abandon (d : Device) : Device :=
  { d with
    line := d.line.stopAllTimers
    inFlight := none
    retries := d.retries.reset
    images := d.images.invalidate }

end Device

/-! ## Sessions -/

structure Session (σ : Type) where
  device : Device
  env : Env σ

namespace Session

variable {σ : Type}

def id (s : Session σ) : DeviceId := s.env.device

def update (s : Session σ) (f : Device → Device) : Session σ := { s with device := f s.device }

def enter (s : Session σ) (event : Event) : Session σ := { s with env := s.env.enter event }

def note (s : Session σ) (m : Message) : Session σ := { s with env := s.env.note m }

/-- Runs an operation of the line against the host. -/
def onLine (s : Session σ) (f : Line → Env σ → Line × Env σ) : Session σ where
  device := { s.device with line := (f s.device.line s.env).1 }
  env := (f s.device.line s.env).2

/-- Runs an operation of the images against the host. -/
def onImages (s : Session σ) (f : Images → Env σ → Images × Env σ) : Session σ where
  device := { s.device with images := (f s.device.images s.env).1 }
  env := (f s.device.images s.env).2

@[simp] theorem device_update (s : Session σ) (f : Device → Device) :
    (s.update f).device = f s.device := rfl

@[simp] theorem env_update (s : Session σ) (f : Device → Device) : (s.update f).env = s.env := rfl

@[simp] theorem device_note (s : Session σ) (m : Message) : (s.note m).device = s.device := rfl

/-! ## Link and timers -/

/-- A change of the link is noted; an event that changes nothing is not. -/
def advance (s : Session σ) (event : Link.Event) : Session σ :=
  let source := s.device.link
  let target := source.next event
  let s := s.enter (.linkEvent source event)
  if target = source then s
  else (s.update fun d => { d with link := target }).note (.moved source target event)

def startTimer (s : Session σ) (k : Timer) (duration : UInt32) (now : Nat) : Session σ :=
  s.onLine fun line env => line.startTimer k duration now env

def stopTimer (s : Session σ) (k : Timer) : Session σ :=
  s.update fun d => { d with line := d.line.stopTimer k }

/-- Only the link depends on an event. -/
theorem device_advance (s : Session σ) (event : Link.Event) :
    (s.advance event).device = { s.device with link := s.device.link.next event } := by
  unfold advance
  dsimp only
  split
  · rename_i h
    rw [h]
    rfl
  · rfl

/-! ## Closing requests -/

section Closing

variable [Application σ]

/-- Confirms a request, if one of this kind is open, and closes it. -/
def finish (s : Session σ) (kind : Service) (outcome : Outcome) : Session σ :=
  if s.device.slots.isOpen kind then
    { device := { s.device with slots := s.device.slots.close kind },
      env := s.env.confirm kind outcome }
  else s

/-- Fails every open request of the chosen kinds. -/
def failWhere (s : Session σ) (cause : Failure) (select : Service → Bool) : Session σ :=
  let taken := s.device.slots.takeWhere select
  { device := { s.device with slots := taken.2 },
    env := taken.1.foldl (fun env t => env.confirm t.kind (.error cause)) s.env }

/-- Closing a request concerns its place alone. -/
theorem device_finish (s : Session σ) (kind : Service) (outcome : Outcome) :
    (s.finish kind outcome).device = { s.device with slots := s.device.slots.close kind } := by
  unfold finish
  split
  · rfl
  · rename_i h
    rw [Slots.close_of_not_isOpen (by simpa using h)]

@[simp] theorem device_failWhere (s : Session σ) (cause : Failure) (select : Service → Bool) :
    (s.failWhere cause select).device =
      { s.device with slots := (s.device.slots.takeWhere select).2 } := rfl

end Closing

end Session

end Sdci
