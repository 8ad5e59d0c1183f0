import Sdci.Access
import Sdci.Checksum
import Sdci.Control

/-! # Frames from the master to the device

A control octet, possibly a parameter access, the output process data and the checksum octet. The
top bit of the control octet announces the access; the other seven hold the control code.
-/

namespace Sdci
set_option autoImplicit false

structure MasterFrame where
  control : Option Control
  access : Option Access
  output : Octets
  deriving DecidableEq

namespace MasterFrame

def accessFlag : UInt8 := 0x80

def body (f : MasterFrame) : Octets :=
  match f.access with
  | none => Control.encode f.control :: f.output
  | some access => access.encodeInto [Control.encode f.control ||| accessFlag] ++ f.output

def encode (f : MasterFrame) : Octets := sealed f.body

/-- Reads a frame without its checksum octet. An unknown control code is noticed before the
access. -/
def ofBody : Octets → Except Failure MasterFrame
  | [] => .error .badChecksum
  | head :: rest => do
    let control ← Control.decode (head &&& ~~~accessFlag)
    if head &&& accessFlag = 0 then return ⟨control, none, rest⟩
    let (access, used) ← Access.decode rest
    return ⟨control, some access, rest.drop used⟩

def decode (frame : Octets) : Except Failure MasterFrame := unsealed frame >>= ofBody

end MasterFrame

end Sdci
