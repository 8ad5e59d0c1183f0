import Sdci.Host
import Sdci.Image

/-! # Process data, control codes and parameters towards the application

* `Images.deliver`: offers received output data unless they are what is already applied.
* `Images.receiveControl`, `Images.offerControl`: a control code is offered once per exchange until
  the application takes it.
* `Access.serve`: runs a parameter access against the application.
-/

namespace Sdci
set_option autoImplicit false

/-- What became of received output data. -/
inductive Delivery
  /-- They equal the applied image; the application was not asked. -/
  | unchanged
  | applied
  | rejected
  deriving DecidableEq

structure Images where
  /-- From the device to the master. -/
  input : Image
  /-- From the master to the device, as last applied by the application. -/
  output : Image
  /-- The last output data refused. -/
  unconsumed : Option Octets := none
  /-- A control code the application has not taken yet. -/
  control : Option Control := none
  deriving DecidableEq

namespace Images

variable {σ : Type}

def ofLimits (input output : Nat) : Images :=
  ⟨{ maxLength := input }, { maxLength := output }, none, none⟩

def setLimits (i : Images) (input output : Nat) : Images :=
  { i with input := i.input.limit input, output := i.output.limit output }

/-- Neither image means anything until the next successful exchange. -/
def invalidate (i : Images) : Images :=
  { i with input := i.input.validate false, output := i.output.validate false, control := none }

/-! ## Output data -/

def deliver [Application σ] (i : Images) (data : Octets) (e : Env σ) :
    Delivery × Images × Env σ :=
  if i.output.valid ∧ i.output.data = data then (.unchanged, { i with unconsumed := none }, e)
  else
    let (accepted, e) := e.offerOutput data
    if accepted then
      match i.output.store data with
      | .ok output => (.applied, { i with output, unconsumed := none }, e)
      | .error cause =>
        (.rejected, { i with unconsumed := some data }, e.note (.outputNotStored cause))
    else (.rejected, { i with unconsumed := some data }, e.note (.outputRejected data))

/-! ## Control codes -/

/-- A new code replaces one that is still pending. -/
def receiveControl (i : Images) (code : Control) (e : Env σ) : Images × Env σ :=
  ({ i with control := some code },
    match i.control with
    | some previous => if previous = code then e else e.note (.controlSuperseded previous code)
    | none => e)

def offerControl [Application σ] (i : Images) (e : Env σ) : Bool × Images × Env σ :=
  match i.control with
  | none => (false, i, e)
  | some code =>
    let (accepted, e) := e.offerControl code
    if accepted then (true, { i with control := none }, e.note (.controlAcknowledged code))
    else (false, i, e.note (.controlRefused code))

end Images

/-! ## Parameters -/

namespace Access

variable {σ : Type} [Application σ]

/-- What the application answers. A value too long for the wire is a failure. -/
def run (a : Access) (e : Env σ) : Except Failure Octets × Env σ :=
  match a with
  | read index subindex =>
    let (answer, e) := e.read index subindex
    (answer.bind fun value => if maxValue < value.length then .error .overflow else .ok value, e)
  | write index subindex value =>
    let (answer, e) := e.write index subindex value
    (answer.map fun _ => [], e)

def serve (a : Access) (e : Env σ) : Answer × Env σ :=
  let (result, e) := a.run e
  (⟨a.index, a.subindex, result⟩,
    match result with
    | .ok _ => e
    | .error cause => e.note (.accessFailed a.index a.subindex cause))

end Access

end Sdci
