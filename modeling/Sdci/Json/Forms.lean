import Sdci.Config
import Sdci.Diagnosis
import Sdci.Json.Value
import Sdci.Message

/-! # JSON forms of configurations and diagnostics

Each type has `toJson` and `ofJson?`. Reading wants every field, in the range of its type, and
checks nothing else: a configuration that is read may still be invalid.
-/

namespace Sdci
set_option autoImplicit false

/-! ## Names -/

def Mode.toJson (m : Mode) : Json := .str m.name

def Mode.ofJson? (j : Json) : Option Mode := j.unit? >>= Mode.named?

def Failure.toJson (f : Failure) : Json := .str f.name

def Failure.ofJson? (j : Json) : Option Failure := j.unit? >>= Failure.named?

/-! ## Numbers -/

def DeviceId.toJson (d : DeviceId) : Json := .nat d.number.toNat

def DeviceId.ofJson? (j : Json) : Option DeviceId := j.uint8?.map DeviceId.mk

/-! ## Records -/

namespace Ident

def fieldNames : List String := ["vendor_id", "device_id", "function_id"]

def toJson (i : Ident) : Json :=
  .obj (fieldNames.zip [.nat i.vendor.toNat, .nat i.device.toNat, .nat i.function.toNat])

def ofJson? (j : Json) : Option Ident := do
  match ← j.record? fieldNames with
  | [vendor, device, function] =>
    return ⟨← vendor.uint16?, ← device.uint32?, ← function.uint16?⟩
  | _ => none

end Ident

namespace Com

def fieldNames : List String :=
  ["supported_mode", "min_cycle_time", "msequence_capability", "revision_id", "pd_in_len",
    "pd_out_len"]

def toJson (c : Com) : Json :=
  .obj (fieldNames.zip [c.fastest.toJson, .nat c.minCycle.toNat, .nat c.sequences.toNat,
    .nat c.revision.toNat, .nat c.inputLength.toNat, .nat c.outputLength.toNat])

def ofJson? (j : Json) : Option Com := do
  match ← j.record? fieldNames with
  | [fastest, minCycle, sequences, revision, inputLength, outputLength] =>
    return ⟨← Mode.ofJson? fastest, ← minCycle.uint8?, ← sequences.uint8?, ← revision.uint8?,
      ← inputLength.uint8?, ← outputLength.uint8?⟩
  | _ => none

end Com

namespace Config

def fieldNames : List String :=
  ["mode_switch_timeout_us", "transfer_timeout_us", "max_cycle_time_us", "max_retries",
    "max_pd_com1", "max_pd_com2", "max_pd_com3", "ident", "com"]

def toJson (c : Config) : Json :=
  .obj (fieldNames.zip [.nat c.modeSwitchTimeout.toNat, .nat c.transferTimeout.toNat,
    .nat c.maxCycleTime.toNat, .nat c.maxRetries.toNat, .nat c.maxCom1.toNat,
    .nat c.maxCom2.toNat, .nat c.maxCom3.toNat, c.ident.toJson, c.com.toJson])

def ofJson? (j : Json) : Option Config := do
  match ← j.record? fieldNames with
  | [modeSwitchTimeout, transferTimeout, maxCycleTime, maxRetries, maxCom1, maxCom2, maxCom3,
      ident, com] =>
    return ⟨← modeSwitchTimeout.uint32?, ← transferTimeout.uint32?, ← maxCycleTime.uint32?,
      ← maxRetries.uint8?, ← maxCom1.uint8?, ← maxCom2.uint8?, ← maxCom3.uint8?,
      ← Ident.ofJson? ident, ← Com.ofJson? com⟩
  | _ => none

end Config

namespace Tally

def fieldNames : List String :=
  ["checksum_errors", "frame_errors", "transfer_timeouts", "retries", "faults"]

def toJson (t : Tally) : Json :=
  .obj (fieldNames.zip [.nat t.badChecksums.toNat, .nat t.badFrames.toNat, .nat t.timeouts.toNat,
    .nat t.retries.toNat, .nat t.faults.toNat])

def ofJson? (j : Json) : Option Tally := do
  match ← j.record? fieldNames with
  | [badChecksums, badFrames, timeouts, retries, faults] =>
    return ⟨← badChecksums.uint32?, ← badFrames.uint32?, ← timeouts.uint32?, ← retries.uint32?,
      ← faults.uint32?⟩
  | _ => none

end Tally

namespace Cycles

def fieldNames : List String := ["last_tx", "last_rx", "cycles"]

def toJson (c : Cycles) : Json :=
  .obj (fieldNames.zip [.octets c.lastSent, .octets c.lastReceived, .nat c.completed.toNat])

def ofJson? (j : Json) : Option Cycles := do
  match ← j.record? fieldNames with
  | [lastSent, lastReceived, completed] =>
    return ⟨← lastSent.octets?, ← lastReceived.octets?, ← completed.uint64?⟩
  | _ => none

end Cycles

/-! ## The state of a link -/

namespace Link

def toJson : Link → Json
  | inactive => .str "Inactive"
  | switching target => .obj [("ModeSwitching", .obj [("target", target.toJson)])]
  | active mode => .obj [("Active", mode.toJson)]
  | transferring mode => .obj [("Transferring", .obj [("mode", mode.toJson)])]
  | fault => .str "Fault"

/-- A record inside an alternative has to be an object. -/
def ofJson? (j : Json) : Option Link := do
  let (name, content) ← j.variant?
  match name with
  | "Inactive" => if content.isNull then some inactive else none
  | "Fault" => if content.isNull then some fault else none
  | "Active" => (Mode.ofJson? content).map active
  | "ModeSwitching" =>
    match ← content.fields? ["target"] with
    | [target] => (Mode.ofJson? target).map switching
    | _ => none
  | "Transferring" =>
    match ← content.fields? ["mode"] with
    | [mode] => (Mode.ofJson? mode).map transferring
    | _ => none
  | _ => none

end Link

end Sdci
