import Sdci.Message
import Sdci.Request

/-! # The host of a device

A device works between a transceiver and an application. Both are played by one host, known only
through the answers it gives: a host in state `σ` answers a call and passes to its next state.

* `Confirmation`: the calls that confirm requests, `Service.confirmation?` the one for each kind.
* `Transceiver`, `Application`: the calls a device makes and the answers it gets.
* `Event`: one thing that passed between a device and its host, `Trace` all of them.
* `Env`: a host together with the trace so far. Each call has one function on `Env`, which makes
  the call and enters it, with its answer, into the trace.
-/

namespace Sdci
set_option autoImplicit false

/-! ## Confirmations -/

/-- The calls that tell an application how its requests have ended. -/
inductive Confirmation
  -- of system management
  | setDeviceIdent
  | getDeviceIdent
  | setDeviceCom
  | getDeviceCom
  | setDeviceMode
  | getDeviceMode
  -- of the application layer
  | transfer
  | access
  | event
  deriving DecidableEq

/-- The kind of request that a call is for. -/
def Confirmation.kind : Confirmation → Service
  | setDeviceIdent => .setIdent
  | getDeviceIdent => .getIdent
  | setDeviceCom => .setCom
  | getDeviceCom => .getCom
  | setDeviceMode => .setMode
  | getDeviceMode => .getMode
  | transfer => .input
  | access => .access
  | event => .event

namespace Service

def managementConfirmation? : Service → Option Confirmation
  | setIdent => some .setDeviceIdent
  | getIdent => some .getDeviceIdent
  | setCom => some .setDeviceCom
  | getCom => some .getDeviceCom
  | setMode => some .setDeviceMode
  | getMode => some .getDeviceMode
  | input | event | access => none

def layerConfirmation? : Service → Option Confirmation
  | input => some .transfer
  | access => some .access
  | event => some .event
  | _ => none

/-- Where a request of a kind is confirmed. What is none of system management's business is left to
the application layer. -/
def confirmation? (k : Service) : Option Confirmation :=
  k.managementConfirmation?.or k.layerConfirmation?

/-- Each kind is confirmed by the call that is for it, and by no other. -/
theorem confirmation?_eq_some_iff {k : Service} {call : Confirmation} :
    k.confirmation? = some call ↔ call.kind = k := by
  cases k <;> cases call <;> decide

theorem exists_confirmation (k : Service) : ∃ call : Confirmation, call.kind = k := by
  have found : k.confirmation?.isSome = true := by cases k <;> rfl
  obtain ⟨call, found⟩ := Option.isSome_iff_exists.1 found
  exact ⟨call, confirmation?_eq_some_iff.1 found⟩

end Service

/-! ## What a device asks of its host -/

class Transceiver (σ : Type) where
  /-- Switch the line; `true` promises a later confirmation. -/
  setMode : Mode → σ → Bool × σ
  /-- Send a frame; `true` promises a later completion or failure. -/
  transfer : Octets → σ → Bool × σ
  /-- The next thing the transceiver has to report. -/
  poll : σ → Option Indication × σ

class Application (σ : Type) where
  /-- An exchange is over, successful or not. -/
  cycle : σ → σ
  /-- New output data; `false` refuses them. -/
  output : Octets → σ → Bool × σ
  /-- A control code; on `false` it is offered again in a later cycle. -/
  control : Control → σ → Bool × σ
  /-- A request has ended. The answer counts for events only: `false` leaves the confirmation
  unacknowledged. -/
  confirm : Confirmation → Outcome → σ → Bool × σ
  /-- The master reads a parameter. -/
  read : UInt16 → UInt8 → σ → Except Failure Octets × σ
  /-- The master writes a parameter. -/
  write : UInt16 → UInt8 → Octets → σ → Except Failure Unit × σ

/-! ## The trace -/

inductive Event
  -- what the host does to the device
  | ticked (now : Nat)
  | requested (request : Request) (answer : Except Failure Unit)
  | expired (timer : Timer)
  -- what reaches the link, and the state it meets
  | linkEvent (source : Link) (event : Link.Event)
  -- calls of the transceiver
  | polled (indication : Option Indication)
  | modeSet (mode : Mode) (accepted : Bool)
  | transferred (frame : Octets) (accepted : Bool)
  -- calls of the application
  | cycled
  | outputOffered (data : Octets) (accepted : Bool)
  | controlOffered (code : Control) (accepted : Bool)
  | confirmed (kind : Service) (outcome : Outcome) (acknowledged : Bool)
  | read (index : UInt16) (subindex : UInt8) (answer : Except Failure Octets)
  | written (index : UInt16) (subindex : UInt8) (value : Octets) (answer : Except Failure Unit)
  -- the diagnostic log
  | noted (record : Record)

/-- What has happened, latest first. -/
abbrev Trace := List Event

structure Env (σ : Type) where
  device : DeviceId
  host : σ
  trace : Trace := []

namespace Env

variable {σ : Type}

def enter (e : Env σ) (event : Event) : Env σ := { e with trace := event :: e.trace }

def note (e : Env σ) (m : Message) : Env σ := e.enter (.noted ⟨e.device, m⟩)

/-- The environment after an answer of the host. -/
def answered (e : Env σ) (host : σ) (event : Event) : Env σ := { e with host }.enter event

/-! ## Calls of the transceiver -/

section Transceiver

variable [Transceiver σ]

def setMode (e : Env σ) (m : Mode) : Bool × Env σ :=
  let (accepted, host) := Transceiver.setMode m e.host
  let e := e.answered host (.modeSet m accepted)
  (accepted, e.note (if accepted then .modeAccepted m else .modeRefused m))

def transfer (e : Env σ) (frame : Octets) : Bool × Env σ :=
  let (accepted, host) := Transceiver.transfer frame e.host
  (accepted, (e.answered host (.transferred frame accepted)).note (.sent frame accepted))

def poll (e : Env σ) : Option Indication × Env σ :=
  let (indication, host) := Transceiver.poll e.host
  let e := e.answered host (.polled indication)
  match indication with
  | some i => (some i, e.note (.indicated i))
  | none => (none, e)

end Transceiver

/-! ## Calls of the application -/

section Application

variable [Application σ]

def cycle (e : Env σ) : Env σ := e.answered (Application.cycle e.host) .cycled

def offerOutput (e : Env σ) (data : Octets) : Bool × Env σ :=
  let (accepted, host) := Application.output data e.host
  (accepted, e.answered host (.outputOffered data accepted))

def offerControl (e : Env σ) (code : Control) : Bool × Env σ :=
  let (accepted, host) := Application.control code e.host
  (accepted, e.answered host (.controlOffered code accepted))

/-- Makes a call and enters what it is for. -/
def tell (e : Env σ) (call : Confirmation) (outcome : Outcome) : Env σ :=
  let (acknowledged, host) := Application.confirm call outcome e.host
  let e := e.answered host (.confirmed call.kind outcome acknowledged)
  if call = .event ∧ acknowledged = false then e.note .eventUnacknowledged else e

/-- Confirms a request of a kind, wherever such requests are confirmed. -/
def confirm (e : Env σ) (kind : Service) (outcome : Outcome) : Env σ :=
  match kind.confirmation? with
  | some call => e.tell call outcome
  | none => e

theorem confirm_kind (e : Env σ) (call : Confirmation) (outcome : Outcome) :
    e.confirm call.kind outcome = e.tell call outcome := by
  rw [confirm, Service.confirmation?_eq_some_iff.2 rfl]

def read (e : Env σ) (index : UInt16) (subindex : UInt8) : Except Failure Octets × Env σ :=
  let (answer, host) := Application.read index subindex e.host
  (answer, e.answered host (.read index subindex answer))

def write (e : Env σ) (index : UInt16) (subindex : UInt8) (value : Octets) :
    Except Failure Unit × Env σ :=
  let (answer, host) := Application.write index subindex value e.host
  (answer, e.answered host (.written index subindex value answer))

end Application

/-! ## Reading the trace -/

/-- The trace, earliest first, and the environment with an empty one. -/
def drain (e : Env σ) : List Event × Env σ := (e.trace.reverse, { e with trace := [] })

end Env

end Sdci
