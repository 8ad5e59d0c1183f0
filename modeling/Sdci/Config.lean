import Sdci.Parameter.Ident
import Sdci.Parameter.Com

/-! # Configuration of a device

Fixed when the device is made: how long it waits for its transceiver and its master, how often it
repeats a frame, how much process data each mode may carry, and the parameters it starts with.
-/

namespace Sdci
set_option autoImplicit false

structure Config where
  /-- Supervision of a mode switch, in µs. -/
  modeSwitchTimeout : UInt32 := 400000
  /-- Supervision of one exchange, in µs. -/
  transferTimeout : UInt32 := 10000
  /-- Longest time between two successful exchanges, in µs; 0 for no such limit. -/
  maxCycleTime : UInt32 := 500000
  /-- Consecutive recoverable failures that are answered by another attempt. -/
  maxRetries : UInt8 := 3
  maxCom1 : UInt8 := 8
  maxCom2 : UInt8 := 16
  maxCom3 : UInt8 := 32
  ident : Ident := {}
  com : Com := {}
  deriving DecidableEq

namespace Config

def check (c : Config) : Except Failure Unit := do
  if c.modeSwitchTimeout = 0 ∨ c.transferTimeout = 0 then throw .badParameter
  if [c.maxCom1, c.maxCom2, c.maxCom3].any (maxImage < ·.toNat) then throw .badParameter
  c.ident.check
  c.com.check

/-- The most process data the device exchanges in a mode. -/
def ceiling (c : Config) (m : Mode) : Nat :=
  let length : UInt8 := match m with
    | .inactive => 0
    | .com1 => c.maxCom1
    | .com2 => c.maxCom2
    | .com3 => c.maxCom3
  min length.toNat maxImage

theorem ceiling_le (c : Config) (m : Mode) : c.ceiling m ≤ maxImage := Nat.min_le_right _ _

end Config

end Sdci
