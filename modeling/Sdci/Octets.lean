/-! # Octets

Words on the wire are octet strings, most significant octet first.

* `split16`, `split24`: the two or three low octets of a number.
* `join16`, `join24`: the number that two or three octets spell.
-/

namespace Sdci
set_option autoImplicit false

/-- A string of octets, as frames, images and parameter values carry it. -/
abbrev Octets := List UInt8

/-- There are 256 octets, so that a property of all of them can be checked one by one. -/
theorem forall_octet {p : UInt8 → Prop} (h : ∀ i : Fin 256, p (UInt8.ofNat i)) (n : UInt8) :
    p n := by
  have entry := h ⟨n.toNat, n.toNat_lt⟩
  rwa [UInt8.ofNat_toNat] at entry

/-! ## Sixteen bits -/

def split16 (n : UInt16) : Octets := [UInt8.ofNat (n.toNat / 256), UInt8.ofNat n.toNat]

def join16 (high low : UInt8) : UInt16 := UInt16.ofNat (high.toNat * 256 + low.toNat)

@[simp] theorem length_split16 (n : UInt16) : (split16 n).length = 2 := rfl

theorem join16_split16 (n : UInt16) :
    join16 (UInt8.ofNat (n.toNat / 256)) (UInt8.ofNat n.toNat) = n := by
  apply UInt16.toNat_inj.1
  have small := n.toNat_lt
  simp only [join16, UInt16.toNat_ofNat', UInt8.toNat_ofNat']
  omega

theorem split16_join16 (high low : UInt8) : split16 (join16 high low) = [high, low] := by
  have top := high.toNat_lt
  have bottom := low.toNat_lt
  have sum : (join16 high low).toNat = high.toNat * 256 + low.toNat := by
    simp only [join16, UInt16.toNat_ofNat']
    omega
  have first : UInt8.ofNat ((high.toNat * 256 + low.toNat) / 256) = high := by
    apply UInt8.toNat_inj.1
    rw [UInt8.toNat_ofNat']
    omega
  have second : UInt8.ofNat (high.toNat * 256 + low.toNat) = low := by
    apply UInt8.toNat_inj.1
    rw [UInt8.toNat_ofNat']
    omega
  rw [split16, sum, first, second]

/-! ## Twenty-four bits -/

/-- The low three octets; a number above 24 bits loses its top octet. -/
def split24 (n : UInt32) : Octets :=
  [UInt8.ofNat (n.toNat / 65536), UInt8.ofNat (n.toNat / 256), UInt8.ofNat n.toNat]

def join24 (high middle low : UInt8) : UInt32 :=
  UInt32.ofNat ((high.toNat * 256 + middle.toNat) * 256 + low.toNat)

end Sdci
