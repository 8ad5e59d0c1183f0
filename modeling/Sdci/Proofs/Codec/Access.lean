import Sdci.Access

/-! # Parameter accesses on the wire

The octets of an access stand at the front of others, and its own octets tell where it ends.

* `Access.Short`: the value of a write is not too long.
* `Access.decode_write`: what becomes of any write, short or not.
* `Access.decode_encode_append`, `Access.decode_front_iff`: reading an access off the front of
  octets undoes writing it there.
* `Access.self_delimiting`: what stands before and behind the octets of an access does not matter.
-/

namespace Sdci
set_option autoImplicit false

namespace Access

def Short : Access → Prop
  | read _ _ => True
  | write _ _ value => value.length ≤ maxValue

@[simp] theorem length_encode_write (index : UInt16) (subindex : UInt8) (value : Octets) :
    (write index subindex value).encode.length = 5 + value.length := by
  simp only [encode_write, List.length_append, List.length_cons, length_split16]
  omega

/-! ## Reading what was written -/

theorem decode_read (index : UInt16) (subindex : UInt8) (rest : Octets) :
    decode ((read index subindex).encode ++ rest) = .ok (read index subindex, 4) := by
  change Except.ok (read (join16 _ _) subindex, 4) = _
  rw [join16_split16]

/-- The length octet holds the length modulo 256, and that many octets are taken for the value. -/
theorem decode_write (index : UInt16) (subindex : UInt8) (value rest : Octets) :
    decode ((write index subindex value).encode ++ rest) =
      if maxValue < value.length % 256 then .error .overflow
      else .ok (write index subindex (value.take (value.length % 256)),
        5 + value.length % 256) := by
  have octet : (UInt8.ofNat value.length).toNat = value.length % 256 := UInt8.toNat_ofNat'
  have less : value.length % 256 ≤ value.length := Nat.mod_le ..
  have enough : ¬(value ++ rest).length < value.length % 256 := by
    rw [List.length_append]
    omega
  change (if maxValue < (UInt8.ofNat value.length).toNat then Except.error Failure.overflow
    else if (value ++ rest).length < (UInt8.ofNat value.length).toNat then .error .protocol
    else .ok (write (join16 _ _) subindex ((value ++ rest).take (UInt8.ofNat value.length).toNat),
      5 + (UInt8.ofNat value.length).toNat)) = _
  rw [octet, if_neg enough, join16_split16, List.take_append_of_le_length less]

theorem decode_encode_append {a : Access} (short : a.Short) (rest : Octets) :
    decode (a.encode ++ rest) = .ok (a, a.encode.length) := by
  cases a with
  | read index subindex => exact decode_read index subindex rest
  | write index subindex value =>
    have fits : value.length ≤ maxValue := short
    have same : value.length % 256 = value.length := by
      refine Nat.mod_eq_of_lt ?_
      rw [maxValue] at fits
      omega
    rw [decode_write, same, if_neg (Nat.not_lt.2 fits), List.take_length, length_encode_write]

/-! ## Writing what was read -/

/-- An access that is read is short, and its octets are those in front. -/
theorem short_of_decode {octets : Octets} {a : Access} {n : Nat}
    (h : decode octets = .ok (a, n)) :
    a.Short ∧ ∃ rest, octets = a.encode ++ rest := by
  unfold decode at h
  split at h
  · rename_i op high low subindex rest
    split at h
    · rename_i code
      cases h
      refine ⟨trivial, rest, ?_⟩
      rw [encode_read, split16_join16, code]
      rfl
    · split at h
      · rename_i code
        split at h
        · cases h
        · rename_i length rest
          split at h
          · cases h
          · rename_i short
            split at h
            · cases h
            · rename_i enough
              cases h
              have taken : (rest.take length.toNat).length = length.toNat := by
                rw [List.length_take]
                omega
              refine ⟨?_, rest.drop length.toNat, ?_⟩
              · change (rest.take length.toNat).length ≤ maxValue
                rw [taken]
                exact Nat.not_lt.1 short
              · rw [encode_write, split16_join16, code, taken, UInt8.ofNat_toNat]
                simp
      · cases h
  · cases h

/-- Reading takes the octets of the access, and no other octets matter. -/
theorem decode_front_iff {octets : Octets} {a : Access} {n : Nat} :
    decode octets = .ok (a, n) ↔
      a.Short ∧ n = a.encode.length ∧ ∃ rest, octets = a.encode ++ rest := by
  constructor
  · intro h
    obtain ⟨short, rest, rfl⟩ := short_of_decode h
    rw [decode_encode_append short] at h
    cases h
    exact ⟨short, rfl, rest, rfl⟩
  · rintro ⟨short, rfl, rest, rfl⟩
    exact decode_encode_append short rest

/-! ## Among other octets -/

/-- The octets that an access takes are its own. -/
theorem take_of_decode {octets : Octets} {a : Access} {n : Nat} (h : decode octets = .ok (a, n)) :
    octets.take n = a.encode := by
  obtain ⟨-, rfl, rest, rfl⟩ := decode_front_iff.1 h
  exact List.take_left

/-- An access takes no more octets than there are. -/
theorem used_le_of_decode {octets : Octets} {a : Access} {used : Nat}
    (h : decode octets = .ok (a, used)) : used ≤ octets.length := by
  obtain ⟨-, rfl, rest, rfl⟩ := decode_front_iff.1 h
  rw [List.length_append]
  exact Nat.le_add_right ..

/-- Octets behind those that were taken are not looked at. -/
theorem decode_of_take_eq {octets others : Octets} {a : Access} {n : Nat}
    (h : decode octets = .ok (a, n)) (same : others.take n = octets.take n) :
    decode others = .ok (a, n) := by
  obtain ⟨short, length, -⟩ := decode_front_iff.1 h
  refine decode_front_iff.2 ⟨short, length, others.drop n, ?_⟩
  rw [← take_of_decode h, ← same, List.take_append_drop]

/-- An access that is cut short is no access. -/
theorem decode_take_eq_error {a : Access} (short : a.Short) {m : Nat} (less : m < a.encode.length) :
    ∃ cause, decode (a.encode.take m) = .error cause := by
  cases read : decode (a.encode.take m) with
  | error cause => exact ⟨cause, rfl⟩
  | ok found =>
    obtain ⟨b, n⟩ := found
    have within : n ≤ m := Nat.le_trans (used_le_of_decode read) (List.length_take_le ..)
    have front : a.encode.take n = (a.encode.take m).take n := by
      rw [List.take_take, Nat.min_eq_left within]
    have whole := decode_encode_append short []
    rw [List.append_nil, decode_of_take_eq read front] at whole
    cases whole
    exact absurd less (Nat.not_lt.2 within)

/-- An access is written behind other octets without a change to them. It is read back with the
number of its octets whatever stands behind it, and it is not read if it is cut short. What is read
at the front of any octets stood there as it is written, within the octets, and the same is read off
all octets that begin alike. -/
theorem self_delimiting :
    (∀ (a : Access) (before : Octets), a.encodeInto before = before ++ a.encode) ∧
    (∀ a : Access, a.Short →
      (∀ rest : Octets, decode (a.encode ++ rest) = .ok (a, a.encode.length)) ∧
      ∀ m < a.encode.length, ∃ cause, decode (a.encode.take m) = .error cause) ∧
    ∀ (octets : Octets) (a : Access) (n : Nat), decode octets = .ok (a, n) →
      n ≤ octets.length ∧ octets.take n = a.encode ∧
        ∀ others : Octets, others.take n = octets.take n → decode others = .ok (a, n) := by
  refine ⟨fun a before => encodeInto_eq before a, fun a short => ⟨decode_encode_append short,
    fun m => decode_take_eq_error short⟩, fun octets a n read => ?_⟩
  exact ⟨used_le_of_decode read, take_of_decode read, fun others => decode_of_take_eq read⟩

/-- A write of two octets with one octet of output data behind it. -/
theorem self_delimiting_write :
    let a : Access := write 0x40 2 [0xCA, 0xFE]
    let octets : Octets := [2, 0, 0x40, 2, 2, 0xCA, 0xFE, 0x77]
    a.Short ∧ a.encodeInto [0x80] = 0x80 :: a.encode ∧
      decode (a.encode ++ [0x77]) = .ok (a, 7) ∧ decode octets = .ok (a, 7) ∧
      7 ≤ octets.length ∧ octets.take 7 = a.encode ∧ decode (octets.take 7) = .ok (a, 7) := by
  intro a octets
  have short : a.Short := (by decide : 2 ≤ maxValue)
  have read : decode octets = .ok (a, 7) := by rfl
  obtain ⟨appends, whole, front⟩ := self_delimiting
  obtain ⟨within, own, alike⟩ := front octets a 7 read
  exact ⟨short, appends a [0x80], (whole a short).1 [0x77], read, within, own,
    alike (octets.take 7) (by rfl)⟩

end Access

end Sdci
