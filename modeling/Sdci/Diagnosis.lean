import Sdci.Octets
import Sdci.Failure

/-! # Retries and diagnosis

* `Retries`: consecutive failures of the current frame against the limit of the configuration.
* `Tally`: how often each kind of trouble occurred; a full counter stays full.
* `Cycles`: what the latest exchanges carried and how many succeeded.
-/

namespace Sdci
set_option autoImplicit false

/-! ## Counters that stay full -/

def bump8 (n : UInt8) : UInt8 := if n = 0xFF then n else n + 1

def bump32 (n : UInt32) : UInt32 := if n = 0xFFFFFFFF then n else n + 1

def bump64 (n : UInt64) : UInt64 := if n = 0xFFFFFFFFFFFFFFFF then n else n + 1

theorem toNat_bump8 (n : UInt8) : (bump8 n).toNat = min (n.toNat + 1) 255 := by
  unfold bump8
  split
  · subst_vars; rfl
  · rename_i h
    have : n.toNat ≠ 255 := fun e => h (UInt8.toNat_inj.1 e)
    have := n.toNat_lt
    rw [UInt8.toNat_add, show (1 : UInt8).toNat = 1 from rfl]
    omega

theorem toNat_bump32 (n : UInt32) : (bump32 n).toNat = min (n.toNat + 1) 4294967295 := by
  unfold bump32
  split
  · subst_vars; rfl
  · rename_i h
    have : n.toNat ≠ 4294967295 := fun e => h (UInt32.toNat_inj.1 e)
    have := n.toNat_lt
    rw [UInt32.toNat_add, show (1 : UInt32).toNat = 1 from rfl]
    omega

theorem toNat_bump64 (n : UInt64) : (bump64 n).toNat = min (n.toNat + 1) 18446744073709551615 := by
  unfold bump64
  split
  · subst_vars; rfl
  · rename_i h
    have : n.toNat ≠ 18446744073709551615 := fun e => h (UInt64.toNat_inj.1 e)
    have := n.toNat_lt
    rw [UInt64.toNat_add, show (1 : UInt64).toNat = 1 from rfl]
    omega

/-! ## Retries -/

structure Retries where
  count : UInt8 := 0
  limit : UInt8
  deriving DecidableEq

namespace Retries

/-- Whether a further failure is answered by another attempt. -/
def left (r : Retries) : Bool := r.count < r.limit

/-- The failure is counted either way; whether an attempt is left is asked before. -/
def fail (r : Retries) : Retries := { r with count := bump8 r.count }

def reset (r : Retries) : Retries := { r with count := 0 }

end Retries

/-! ## Error counters -/

structure Tally where
  badChecksums : UInt32 := 0
  badFrames : UInt32 := 0
  timeouts : UInt32 := 0
  retries : UInt32 := 0
  faults : UInt32 := 0
  deriving DecidableEq

namespace Tally

/-- Counts a failed exchange by its cause; other causes have no counter. -/
def failed (t : Tally) : Failure → Tally
  | .badChecksum => { t with badChecksums := bump32 t.badChecksums }
  | .badFrame => { t with badFrames := bump32 t.badFrames }
  | .timeout => { t with timeouts := bump32 t.timeouts }
  | _ => t

def retried (t : Tally) : Tally := { t with retries := bump32 t.retries }

def faulted (t : Tally) : Tally := { t with faults := bump32 t.faults }

end Tally

/-! ## Exchanges -/

structure Cycles where
  /-- Process data of the last process data frame sent. -/
  lastSent : Octets := []
  /-- Output data of the last valid master frame. -/
  lastReceived : Octets := []
  /-- Successful exchanges. -/
  completed : UInt64 := 0
  deriving DecidableEq

namespace Cycles

def received (c : Cycles) (output : Octets) : Cycles :=
  { c with lastReceived := output, completed := bump64 c.completed }

/-- A frame without process data leaves the record as it is. -/
def sent (c : Cycles) : Option Octets → Cycles
  | some data => { c with lastSent := data }
  | none => c

end Cycles

end Sdci
