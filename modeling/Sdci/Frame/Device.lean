import Sdci.Checksum
import Sdci.Service

/-! # Frames from the device to the master

A header octet, the payload and the checksum octet. The top two bits of the header tell process
data (0) from a service (1); below them stand the validity flag or the code of the service.
-/

namespace Sdci
set_option autoImplicit false

inductive DeviceFrame
  /-- Cyclic input process data. -/
  | processData (valid : Bool) (data : Octets)
  /-- A service that shares the cycle. -/
  | service (kind : Service) (payload : Octets)
  deriving DecidableEq

namespace DeviceFrame

def header : DeviceFrame → UInt8
  | processData valid _ => if valid then 1 else 0
  | service kind _ => 0x40 ||| kind.code

def payload : DeviceFrame → Octets
  | processData _ data => data
  | service _ payload => payload

/-- The process data a frame carries; a service frame carries none. -/
def processData? : DeviceFrame → Option Octets
  | processData _ data => some data
  | service _ _ => none

def encode (f : DeviceFrame) : Octets := sealed (f.header :: f.payload)

/-- Reads a frame without its checksum octet. -/
def ofBody : Octets → Except Failure DeviceFrame
  | [] => .error .badChecksum
  | header :: payload =>
    if header >>> 6 = 0 then .ok (processData (header &&& 1 != 0) payload)
    else if header >>> 6 = 1 then
      match Service.ofCode? (header &&& 0x3F) with
      | some kind => .ok (service kind payload)
      | none => .error .protocol
    else .error .protocol

def decode (frame : Octets) : Except Failure DeviceFrame := unsealed frame >>= ofBody

end DeviceFrame

end Sdci
