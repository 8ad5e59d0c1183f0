import Sdci.Directory
import Sdci.Frame.Master
import Sdci.Host

/-! # A host on the bench

A host that plays its part by a script: a transceiver with a master at the other end of the line,
and an application with a table of parameters. A device can be driven through every state with it.

* `Bench.Wire`: what the transceiver accepts and what the master replies.
* `Bench.Program`: what the application accepts and which parameters it has.
-/

namespace Sdci
set_option autoImplicit false

namespace Bench

/-! ## Transceiver and master -/

structure Wire where
  acceptMode : Bool := true
  /-- Whether an accepted mode is confirmed at all. -/
  confirmMode : Bool := true
  /-- The mode that is confirmed instead of the accepted one. -/
  confirmAs : Option Mode := none
  acceptTransfer : Bool := true
  /-- Whether an accepted frame is answered at all. -/
  reply : Bool := true
  /-- The output data of every reply. -/
  output : Octets := []
  /-- A control code for the next reply. -/
  control : Option Control := none
  /-- A parameter access for the next reply. -/
  access : Option Access := none
  /-- The octets of the next reply, whatever they are. -/
  rawReply : Option Octets := none
  /-- How many replies will be spoilt. -/
  corruptReplies : Nat := 0
  /-- How many transfers will fail. -/
  failTransfers : Nat := 0
  failFault : LineFault := .parity
  /-- What the transceiver has to report, the next first. -/
  queue : List Indication := []

/-- Flips the lowest bit of the last octet. -/
def spoil (frame : Octets) : Octets :=
  match frame.getLast? with
  | some last => frame.dropLast ++ [last ^^^ 1]
  | none => []

namespace Wire

def push (w : Wire) (i : Indication) : Wire := { w with queue := w.queue ++ [i] }

def setMode (w : Wire) (m : Mode) : Bool × Wire :=
  (w.acceptMode,
    if w.acceptMode && w.confirmMode then w.push (.modeSwitched (w.confirmAs.getD m)) else w)

/-- The next reply of the master. Raw octets leave the control code and the access for later. -/
def nextReply (w : Wire) : Octets × Wire :=
  match w.rawReply with
  | some raw => (raw, { w with rawReply := none })
  | none =>
    (MasterFrame.encode ⟨w.control, w.access, w.output⟩, { w with control := none, access := none })

def transfer (w : Wire) : Bool × Wire :=
  if !w.acceptTransfer then (false, w)
  else if 0 < w.failTransfers then
    (true, { w with failTransfers := w.failTransfers - 1 }.push (.transferFailed w.failFault))
  else if w.reply then
    let (reply, w) := w.nextReply
    if 0 < w.corruptReplies then
      (true,
        { w with corruptReplies := w.corruptReplies - 1 }.push (.transferComplete (spoil reply)))
    else (true, w.push (.transferComplete reply))
  else (true, w)

def poll (w : Wire) : Option Indication × Wire :=
  match w.queue with
  | [] => (none, w)
  | i :: rest => (some i, { w with queue := rest })

end Wire

/-! ## Application -/

/-- Where a parameter stands. -/
structure Address where
  index : UInt16
  subindex : UInt8
  deriving DecidableEq

instance : Ranked Address := ⟨fun a => a.index.toNat * 256 + a.subindex.toNat⟩

structure Program where
  acceptOutput : Bool := true
  acceptControl : Bool := true
  acknowledgeEvents : Bool := true
  /-- Why every write fails, if it does. -/
  writeFailure : Option Failure := none
  parameters : Directory Address (Except Failure Octets) := {}

namespace Program

/-- A parameter that is not in the table cannot be read. -/
def read (p : Program) (index : UInt16) (subindex : UInt8) : Except Failure Octets :=
  (p.parameters.find? ⟨index, subindex⟩).getD (.error .badParameter)

def set (p : Program) (index : UInt16) (subindex : UInt8) (value : Except Failure Octets) :
    Program :=
  { p with parameters := p.parameters.insert ⟨index, subindex⟩ value }

def write (p : Program) (index : UInt16) (subindex : UInt8) (value : Octets) :
    Except Failure Unit × Program :=
  match p.writeFailure with
  | some cause => (.error cause, p)
  | none => (.ok (), p.set index subindex (.ok value))

end Program

end Bench

/-! ## Both together -/

structure Bench where
  wire : Bench.Wire := {}
  program : Bench.Program := {}

namespace Bench

instance : Transceiver Bench where
  setMode m b := let (accepted, wire) := b.wire.setMode m; (accepted, { b with wire })
  transfer _ b := let (accepted, wire) := b.wire.transfer; (accepted, { b with wire })
  poll b := let (indication, wire) := b.wire.poll; (indication, { b with wire })

instance : Application Bench where
  cycle b := b
  output _ b := (b.program.acceptOutput, b)
  control _ b := (b.program.acceptControl, b)
  confirm _ _ b := (b.program.acknowledgeEvents, b)
  read index subindex b := (b.program.read index subindex, b)
  write index subindex value b :=
    let (answer, program) := b.program.write index subindex value
    (answer, { b with program })

end Bench

end Sdci
