import Sdci.Octets
import Sdci.Failure

/-! # Frame checksum

Every frame ends in one octet that carries a six-bit checksum of the octets before it.

* `checksum`: all octets are added (exclusive or) onto a seed, and `fold` shrinks the sum to six
  bits: the four pairs of neighbouring bits, then the odd and the even bit positions.
* `sealed` appends the checksum octet, `unsealed` checks and removes it.
-/

namespace Sdci
set_option autoImplicit false

/-! ## The checksum -/

def seed : UInt8 := 0x52

/-- The bit of `acc` at position `n`, as 0 or 1. -/
def bitAt (acc n : UInt8) : UInt8 := (acc >>> n) &&& 1

def fold (acc : UInt8) : UInt8 :=
  (bitAt acc 7 ^^^ bitAt acc 5 ^^^ bitAt acc 3 ^^^ bitAt acc 1) <<< 5 |||
  (bitAt acc 6 ^^^ bitAt acc 4 ^^^ bitAt acc 2 ^^^ bitAt acc 0) <<< 4 |||
  (bitAt acc 7 ^^^ bitAt acc 6) <<< 3 |||
  (bitAt acc 5 ^^^ bitAt acc 4) <<< 2 |||
  (bitAt acc 3 ^^^ bitAt acc 2) <<< 1 |||
  (bitAt acc 1 ^^^ bitAt acc 0)

def checksum (data : Octets) : UInt8 := fold (data.foldl (· ^^^ ·) seed)

/-- A zero in the place of the checksum octet changes nothing. -/
@[simp] theorem checksum_append_zero (data : Octets) : checksum (data ++ [0]) = checksum data := by
  simp [checksum]

/-! ## Sealed frames -/

def sealed (body : Octets) : Octets := body ++ [checksum body]

/-- The body of a sealed frame. A frame holds at least one octet before its checksum. -/
def unsealed (frame : Octets) : Except Failure Octets :=
  let body := frame.dropLast
  if body ≠ [] ∧ frame.getLast? = some (checksum body) then .ok body else .error .badChecksum

theorem unsealed_sealed {body : Octets} (h : body ≠ []) : unsealed (sealed body) = .ok body := by
  simp [unsealed, sealed, h]

end Sdci
