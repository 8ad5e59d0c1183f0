import Sdci.Octets
import Sdci.Failure

/-! # Process data images

An image holds the process data of one direction, with the longest length the link allows and a
flag that says whether the data mean anything now.
-/

namespace Sdci
set_option autoImplicit false

structure Image where
  data : Octets := []
  maxLength : Nat
  valid : Bool := false
  deriving DecidableEq

namespace Image

def check (i : Image) (length : Nat) : Except Failure Unit :=
  if i.maxLength < length then .error .overflow else .ok ()

/-- The image with new, valid data, if they fit. -/
def store (i : Image) (data : Octets) : Except Failure Image := do
  i.check data.length
  return { i with data, valid := true }

def validate (i : Image) (valid : Bool) : Image := { i with valid }

/-- Under a new longest length the data beyond it are dropped. -/
def limit (i : Image) (maxLength : Nat) : Image :=
  { i with maxLength, data := i.data.take maxLength }

theorem store_eq_ok_iff {i j : Image} {data : Octets} :
    i.store data = .ok j ↔ data.length ≤ i.maxLength ∧ j = { i with data, valid := true } := by
  unfold store check
  split
  · rename_i h
    simp only [Nat.not_le.2 h, false_and, iff_false]
    exact fun e => nomatch e
  · rename_i h
    simp only [Nat.not_lt.1 h, true_and]
    exact ⟨fun e => by cases e; rfl, fun e => by subst e; rfl⟩

end Image

end Sdci
