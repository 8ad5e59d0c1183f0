import Sdci.Service

/-! # Parameter access

The master reads and writes indexed parameters of the device. Its request rides in a master frame:
an opcode, the index, the subindex and, for a write, a length octet and the value. The device
answers with a status octet, the address and the value read.

* `Access.encodeInto`, `Access.encode`: writes a request behind other octets, or alone.
* `Access.decode`: reads a request off the front of an octet string and says how many octets it
  took.
* `Answer.encode`: the answer; status 0 is success, anything else the code of a failure.
* `Answer.outcome`: what the application is told once the answer was delivered.
-/

namespace Sdci
set_option autoImplicit false

/-- The longest parameter value in either direction. -/
def maxValue : Nat := 32

/-! ## Requests -/

inductive Access
  | read (index : UInt16) (subindex : UInt8)
  | write (index : UInt16) (subindex : UInt8) (value : Octets)
  deriving DecidableEq

namespace Access

def readCode : UInt8 := 1
def writeCode : UInt8 := 2

def index : Access → UInt16
  | read index _ | write index _ _ => index

def subindex : Access → UInt8
  | read _ subindex | write _ subindex _ => subindex

/-- Writes the address, then for a write the length octet, then the value. The length octet holds
the low eight bits of the length. -/
def encodeInto (written : Octets) : Access → Octets
  | read index subindex => written ++ (readCode :: split16 index ++ [subindex])
  | write index subindex value =>
    written ++ (writeCode :: split16 index ++ [subindex]) ++ [UInt8.ofNat value.length] ++ value

def encode (a : Access) : Octets := a.encodeInto []

theorem encode_read (index : UInt16) (subindex : UInt8) :
    (read index subindex).encode = readCode :: split16 index ++ [subindex] := rfl

theorem encode_write (index : UInt16) (subindex : UInt8) (value : Octets) :
    (write index subindex value).encode =
      writeCode :: split16 index ++ subindex :: UInt8.ofNat value.length :: value := rfl

theorem encodeInto_eq (written : Octets) (a : Access) :
    a.encodeInto written = written ++ a.encode := by
  cases a with
  | read index subindex => rfl
  | write index subindex value =>
    simp only [encode, encodeInto, List.append_assoc, List.nil_append]

/-- The request at the front of `octets` and the number of octets it takes. -/
def decode : Octets → Except Failure (Access × Nat)
  | op :: high :: low :: subindex :: rest =>
    if op = readCode then .ok (read (join16 high low) subindex, 4)
    else if op = writeCode then
      match rest with
      | [] => .error .protocol
      | length :: rest =>
        if maxValue < length.toNat then .error .overflow
        else if rest.length < length.toNat then .error .protocol
        else .ok (write (join16 high low) subindex (rest.take length.toNat), 5 + length.toNat)
    else .error .protocol
  | _ => .error .protocol

end Access

/-! ## Answers -/

/-- The application's answer to an access: the value read (none for a write), or why it failed. -/
structure Answer where
  index : UInt16
  subindex : UInt8
  result : Except Failure Octets

namespace Answer

def status (a : Answer) : UInt8 :=
  match a.result with
  | .ok _ => 0
  | .error cause => cause.code

def value (a : Answer) : Octets :=
  match a.result with
  | .ok value => value
  | .error _ => []

def encode (a : Answer) : Octets := a.status :: split16 a.index ++ a.subindex :: a.value

/-- An empty value is confirmed as success without octets. -/
def outcome (a : Answer) : Outcome :=
  match a.result with
  | .ok [] => .ok none
  | .ok value => .ok (some value)
  | .error cause => .error cause

end Answer

end Sdci
