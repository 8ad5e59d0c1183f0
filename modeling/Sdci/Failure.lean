/-! # Failures

Why a request, an exchange or a parameter access did not succeed. Every confirmation that is no
success carries exactly one `Failure`; so does every entry into the fault state.

* `Failure.recoverable`: failures of one exchange that the link retries before it gives up.
* `Failure.code`: the nonzero octet that stands for a failure on the wire.
* `Failure.text`, `Failure.name`: its wording and its short name in diagnostics.
-/

namespace Sdci
set_option autoImplicit false

inductive Failure
  | badParameter
  | timeout
  | badChecksum
  | badFrame
  | overflow
  | notReady
  | hardware
  | protocol
  | unknownDevice
  deriving DecidableEq

namespace Failure

def all : List Failure :=
  [badParameter, timeout, badChecksum, badFrame, overflow, notReady, hardware, protocol,
    unknownDevice]

/-- A broken frame or a missing answer is worth another attempt; nothing else is. -/
def recoverable : Failure → Bool
  | badChecksum | badFrame | timeout => true
  | _ => false

def code : Failure → UInt8
  | badParameter => 1
  | timeout => 2
  | badChecksum => 3
  | badFrame => 4
  | overflow => 5
  | notReady => 6
  | hardware => 7
  | protocol => 8
  | unknownDevice => 9

def text : Failure → String
  | badParameter => "Invalid or malformed request parameter"
  | timeout => "Timer expired before the expected confirmation"
  | badChecksum => "Frame checksum verification failed"
  | badFrame => "Transceiver reported a corrupted frame"
  | overflow => "Payload exceeds the negotiated maximum length"
  | notReady => "Device is busy or not in a suitable state"
  | hardware => "Unrecoverable transceiver fault"
  | protocol => "Out-of-sequence or invalid protocol element"
  | unknownDevice => "Unknown or destroyed device handle"

def name : Failure → String
  | badParameter => "InvalidParameter"
  | timeout => "Timeout"
  | badChecksum => "ChecksumError"
  | badFrame => "FrameError"
  | overflow => "BufferOverflow"
  | notReady => "DeviceNotReady"
  | hardware => "HardwareError"
  | protocol => "ProtocolError"
  | unknownDevice => "InvalidHandle"

def named? (s : String) : Option Failure := all.find? (·.name == s)

end Failure

/-! ## Faults of a single transfer -/

/-- What the line receiver saw when a transfer failed. -/
inductive LineFault
  | parity
  | framing
  | overrun
  deriving DecidableEq

namespace LineFault

def all : List LineFault := [parity, framing, overrun]

def name : LineFault → String
  | parity => "Parity"
  | framing => "Framing"
  | overrun => "Overrun"

def named? (s : String) : Option LineFault := all.find? (·.name == s)

/-- All of them spoil one frame and no more. -/
def failure : LineFault → Failure
  | parity | framing | overrun => .badFrame

end LineFault

end Sdci
