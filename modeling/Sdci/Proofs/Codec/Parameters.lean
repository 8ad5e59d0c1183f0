import Sdci.Parameter.Ident
import Sdci.Parameter.Com

/-! # Parameters on the wire

An identification is read back as it was written if its device id fits its three octets, and
communication parameters if they are valid. Nothing else is read: the octets that can be read are
just those that a valid value is written as.

* `join24_split24`, `split24_join24`: three octets and a number of 24 bits.
* `Ident.decode_ok_iff`, `Com.decode_ok_iff`: which octets are read, and as what.
* `Ident.decode_eq_error`, `Com.decode_eq_error`: every other octet string is a bad parameter.
-/

namespace Sdci
set_option autoImplicit false

/-! ## Twenty-four bits -/

theorem toNat_join24 (high middle low : UInt8) :
    (join24 high middle low).toNat = (high.toNat * 256 + middle.toNat) * 256 + low.toNat := by
  have top := high.toNat_lt
  have center := middle.toNat_lt
  have bottom := low.toNat_lt
  rw [join24, UInt32.toNat_ofNat']
  omega

theorem join24_le (high middle low : UInt8) : join24 high middle low ≤ Ident.maxDevice := by
  have top := high.toNat_lt
  have center := middle.toNat_lt
  have bottom := low.toNat_lt
  rw [UInt32.le_iff_toNat_le, toNat_join24]
  change _ ≤ 0xFFFFFF
  omega

theorem join24_split24 {n : UInt32} (small : n ≤ Ident.maxDevice) :
    join24 (UInt8.ofNat (n.toNat / 65536)) (UInt8.ofNat (n.toNat / 256)) (UInt8.ofNat n.toNat) =
      n := by
  have bound : n.toNat ≤ 0xFFFFFF := UInt32.le_iff_toNat_le.1 small
  apply UInt32.toNat_inj.1
  simp only [toNat_join24, UInt8.toNat_ofNat']
  omega

theorem split24_join24 (high middle low : UInt8) :
    split24 (join24 high middle low) = [high, middle, low] := by
  have top := high.toNat_lt
  have center := middle.toNat_lt
  have bottom := low.toNat_lt
  have octet {n : Nat} {b : UInt8} (same : n % 256 = b.toNat) : UInt8.ofNat n = b := by
    apply UInt8.toNat_inj.1
    rw [UInt8.toNat_ofNat', same]
  rw [split24, toNat_join24, octet (b := high) (by omega), octet (b := middle) (by omega),
    octet (b := low) (by omega)]

/-! ## Identifications -/

namespace Ident

variable {i : Ident} {b : Octets}

theorem check_eq (i : Ident) :
    i.check = if i.device ≤ maxDevice then .ok () else .error .badParameter := by
  simp only [check, ← UInt32.not_le, ite_not]

theorem check_ok_iff : i.check = .ok () ↔ i.device ≤ maxDevice := by
  rw [check_eq]
  split <;> simp [*]

theorem decode_encode (small : i.device ≤ maxDevice) : decode i.encode = .ok i := by
  change Except.ok (Ident.mk (join16 _ _) (join24 _ _ _) (join16 _ _)) = Except.ok i
  rw [join16_split16, join24_split24 small, join16_split16]

/-- Seven octets are all that it takes. -/
theorem exists_decode (length : b.length = 7) :
    ∃ i, decode b = .ok i ∧ i.device ≤ maxDevice ∧ i.encode = b := by
  obtain ⟨v₁, v₀, d₂, d₁, d₀, f₁, f₀, rfl⟩ : ∃ v₁ v₀ d₂ d₁ d₀ f₁ f₀ : UInt8,
      b = [v₁, v₀, d₂, d₁, d₀, f₁, f₀] := by
    match b, length with
    | [v₁, v₀, d₂, d₁, d₀, f₁, f₀], _ => exact ⟨v₁, v₀, d₂, d₁, d₀, f₁, f₀, rfl⟩
  refine ⟨_, rfl, join24_le d₂ d₁ d₀, ?_⟩
  rw [encode, split16_join16, split24_join24, split16_join16]
  rfl

theorem decode_of_length (length : b.length ≠ 7) : decode b = .error .badParameter := by
  unfold decode
  split
  · exact absurd rfl length
  · rfl

theorem decode_ok_iff : decode b = .ok i ↔ i.device ≤ maxDevice ∧ i.encode = b := by
  constructor
  · intro read
    by_cases length : b.length = 7
    · obtain ⟨j, same, written⟩ := exists_decode length
      obtain rfl := Except.ok.inj (same.symm.trans read)
      exact written
    · cases (decode_of_length length).symm.trans read
  · rintro ⟨small, rfl⟩
    exact decode_encode small

theorem decode_eq_error (other : ¬∃ i : Ident, i.device ≤ maxDevice ∧ i.encode = b) :
    decode b = .error .badParameter := by
  refine decode_of_length fun length => other ?_
  obtain ⟨i, -, written⟩ := exists_decode length
  exact ⟨i, written⟩

end Ident

/-! ## Communication parameters -/

theorem Mode.ofCode_eq_ok_iff {c : UInt8} {m : Mode} : ofCode c = .ok m ↔ m.code = c := by
  constructor
  · intro h
    unfold ofCode at h
    split at h
    · rename_i found
      cases h
      have code := List.find?_some found
      exact beq_iff_eq.1 code
    · cases h
  · rintro rfl
    exact ofCode_code m

namespace Com

variable {c : Com} {b : Octets}

theorem check_eq (c : Com) :
    c.check = if c.fastest.active = true ∧ c.inputLength.toNat ≤ maxImage ∧
      c.outputLength.toNat ≤ maxImage then .ok () else .error .badParameter := by
  unfold check
  cases c.fastest.active with
  | false => rfl
  | true => simp only [← Nat.not_lt, Bool.not_true, Bool.false_eq_true, if_false, true_and,
      ← not_or, ite_not]

theorem decode_encode (valid : c.check = .ok ()) : decode c.encode = .ok c := by
  change (do
    let fastest ← (Mode.ofCode c.fastest.code).mapError UnknownMode.failure
    let d : Com := ⟨fastest, c.minCycle, c.sequences, c.revision, c.inputLength, c.outputLength⟩
    d.check
    return d) = _
  rw [Mode.ofCode_code]
  change (c.check >>= fun _ => .ok c) = _
  rw [valid]
  rfl

theorem check_eq_error {cause : Failure} (h : c.check = .error cause) : cause = .badParameter := by
  rw [check_eq] at h
  split at h <;> cases h
  rfl

/-- What is read is valid and was written so; the rest is a bad parameter. -/
theorem decode_cases (b : Octets) :
    (∃ c, c.check = .ok () ∧ c.encode = b ∧ decode b = .ok c) ∨
      decode b = .error .badParameter := by
  unfold decode
  split
  · rename_i code minCycle sequences revision inputLength outputLength
    cases mode : Mode.ofCode code with
    | error unknown => exact .inr rfl
    | ok fastest =>
      obtain rfl := Mode.ofCode_eq_ok_iff.1 mode
      let c : Com := ⟨fastest, minCycle, sequences, revision, inputLength, outputLength⟩
      cases valid : c.check with
      | ok =>
        refine .inl ⟨c, valid, rfl, ?_⟩
        change (c.check >>= fun _ => Except.ok c) = _
        rw [valid]
        rfl
      | error cause =>
        right
        obtain rfl := check_eq_error valid
        change (c.check >>= fun _ => Except.ok c) = _
        rw [valid]
        rfl
  · exact .inr rfl

theorem decode_ok_iff : decode b = .ok c ↔ c.check = .ok () ∧ c.encode = b := by
  constructor
  · intro read
    rcases decode_cases b with ⟨d, valid, written, same⟩ | bad
    · obtain rfl := Except.ok.inj (same.symm.trans read)
      exact ⟨valid, written⟩
    · cases bad.symm.trans read
  · rintro ⟨valid, rfl⟩
    exact decode_encode valid

theorem decode_eq_error (other : ¬∃ c : Com, c.check = .ok () ∧ c.encode = b) :
    decode b = .error .badParameter := by
  rcases decode_cases b with ⟨c, valid, written, -⟩ | bad
  · exact absurd ⟨c, valid, written⟩ other
  · exact bad

end Com

end Sdci
