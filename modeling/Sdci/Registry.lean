import Sdci.Device.Session
import Sdci.Directory

/-! # A collection of devices

A host may run many devices. They share nothing and are ticked in ascending order of their ids.

* `Registry.create`, `Registry.insert`, `Registry.remove`: which devices there are.
* `Registry.modify`: an operation on one device.
* `Registry.tick`, `Registry.tickAll`: one device, or all of them.
-/

namespace Sdci
set_option autoImplicit false

instance : Ranked DeviceId := ⟨fun d => d.number.toNat⟩

structure Registry (σ : Type) where
  devices : Directory DeviceId (Session σ) := {}
  /-- What the registry itself has noted, latest first. -/
  records : List Record := []

namespace Registry

variable {σ : Type}

def note (r : Registry σ) (id : DeviceId) (m : Message) : Registry σ :=
  { r with records := ⟨id, m⟩ :: r.records }

/-! ## Which devices there are -/

/-- Adds a device under its own id, unless there is one. -/
def insert (r : Registry σ) (s : Session σ) : Except Failure Unit × Registry σ :=
  if r.devices.contains s.id then (.error .badParameter, r.note s.id .alreadyRegistered)
  else (.ok (), { r with devices := r.devices.insert s.id s }.note s.id .registered)

/-- Makes a device and adds it. A taken id is noticed before a bad configuration. -/
def create (r : Registry σ) (id : DeviceId) (config : Config) (host : σ) :
    Except Failure Unit × Registry σ :=
  if r.devices.contains id then (.error .badParameter, r.note id .alreadyRegistered)
  else match Session.create id config host with
    | .error cause => (.error cause, r)
    | .ok s => r.insert s

/-- A device, if there is one of that id. -/
def find (r : Registry σ) (id : DeviceId) : Except Failure (Session σ) :=
  match r.devices.find? id with
  | some s => .ok s
  | none => .error .unknownDevice

/-- Takes a device out. Its open requests go with it. -/
def remove (r : Registry σ) (id : DeviceId) : Except Failure (Session σ) × Registry σ :=
  match r.find id with
  | .ok s => (.ok s, { r with devices := r.devices.erase id }.note id .removed)
  | .error cause => (.error cause, r)

/-! ## Operations on devices -/

def modify {α : Type} (r : Registry σ) (id : DeviceId) (f : Session σ → α × Session σ) :
    Except Failure α × Registry σ :=
  match r.find id with
  | .ok s =>
    let (answer, s) := f s
    (.ok answer, { r with devices := r.devices.insert id s })
  | .error cause => (.error cause, r)

section Ticking

variable [Transceiver σ] [Application σ]

def tick (r : Registry σ) (id : DeviceId) (now : Nat) : Except Failure Link × Registry σ :=
  r.modify id fun s => let s := s.tick now; (s.link, s)

/-- Ticks every device once; the answer lists the links they end in. -/
def tickAll (r : Registry σ) (now : Nat) : List (DeviceId × Link) × Registry σ :=
  let devices := r.devices.map (·.tick now)
  (devices.entries.map fun e => (e.1, e.2.link), { r with devices })

end Ticking

/-! ## What a host can see -/

def ids (r : Registry σ) : List DeviceId := r.devices.keys

def size (r : Registry σ) : Nat := r.devices.size

def isEmpty (r : Registry σ) : Bool := r.devices.isEmpty

/-- The earliest deadline of all devices. -/
def nextDeadline (r : Registry σ) : Option Nat :=
  (r.devices.values.filterMap Session.nextDeadline).min?

/-- What the devices and then the registry itself have to tell, earliest first, and the registry
with nothing to tell. -/
def drain (r : Registry σ) : List Event × Registry σ :=
  (r.devices.values.flatMap (·.drain.1) ++ r.records.reverse.map Event.noted,
    { devices := r.devices.map (·.drain.2) })

end Registry

end Sdci
