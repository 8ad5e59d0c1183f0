import Sdci.Proofs.Codec.Device
import Sdci.Proofs.Codec.Master

/-! # Frames that cannot be read

Three things keep octets from being a master frame: the checksum, what the control octet announces,
and a write that is too long. Each has a condition on the octets and a failure of its own, and an
earlier check hides what a later one would find.

* `Access.Malformed`, `Access.Oversized`: octets with no access in front, and with too long a write.
* `MasterFrame.Malformed`, `MasterFrame.Oversized`: the same for frames.
* `MasterFrame.decode_eq_badChecksum_iff`, `MasterFrame.decode_eq_protocol_iff`,
  `MasterFrame.decode_eq_overflow_iff`: the three failures.
-/

namespace Sdci
set_option autoImplicit false

/-! ## Accesses -/

namespace Access

/-- Why no access stands in front of octets, but for a write that is too long. -/
inductive Malformed : Octets → Prop
  /-- Opcode, index and subindex take four octets. -/
  | short {octets : Octets} (few : octets.length < 4) : Malformed octets
  /-- The opcode is neither a read nor a write. -/
  | unknown {op : UInt8} (read : op ≠ 1) (write : op ≠ 2) (rest : Octets) : Malformed (op :: rest)
  /-- The octets end before the length of the write. -/
  | unmeasured (high low subindex : UInt8) : Malformed [2, high, low, subindex]
  /-- The length is one that a write may have, but the octets end before the value does. -/
  | cut {high low subindex length : UInt8} {value : Octets} (within : length.toNat ≤ 32)
      (missing : value.length < length.toNat) :
      Malformed (2 :: high :: low :: subindex :: length :: value)

/-- The write in front of octets announces more than a write may have. Whether all of it is there
makes no difference. -/
def Oversized (octets : Octets) : Prop :=
  ∃ (high low subindex length : UInt8) (rest : Octets),
    octets = 2 :: high :: low :: subindex :: length :: rest ∧ 32 < length.toNat

/-- A write with a length octet is judged by its length first. -/
theorem decode_write_octets (high low subindex length : UInt8) (value : Octets) :
    decode (2 :: high :: low :: subindex :: length :: value) =
      if maxValue < length.toNat then .error .overflow
      else if value.length < length.toNat then .error .protocol
      else .ok (write (join16 high low) subindex (value.take length.toNat), 5 + length.toNat) :=
  rfl

theorem decode_of_malformed {octets : Octets} (h : Malformed octets) :
    decode octets = .error .protocol := by
  cases h with
  | short few =>
    -- Without a fourth octet there is nothing to match on.
    rcases octets with _ | ⟨a, _ | ⟨b, _ | ⟨c, _ | ⟨d, rest⟩⟩⟩⟩
    · rfl
    · rfl
    · rfl
    · rfl
    · simp only [List.length_cons] at few
      omega
  | unknown read write rest =>
    unfold decode
    split
    · rename_i same
      cases same
      exact (if_neg read).trans (if_neg write)
    · rfl
  | unmeasured => rfl
  | cut within missing =>
    rw [decode_write_octets]
    exact (if_neg (Nat.not_lt.2 within)).trans (if_pos missing)

theorem decode_of_oversized {octets : Octets} (h : Oversized octets) :
    decode octets = .error .overflow := by
  obtain ⟨high, low, subindex, length, rest, rfl, beyond⟩ := h
  rw [decode_write_octets]
  exact if_pos beyond

/-- Reading fails for no other reason. -/
theorem cases_of_decode_error {octets : Octets} {cause : Failure}
    (h : decode octets = .error cause) :
    cause = .protocol ∧ Malformed octets ∨ cause = .overflow ∧ Oversized octets := by
  unfold decode at h
  split at h
  · rename_i op high low subindex rest
    split at h
    · cases h
    · rename_i read
      split at h
      · rename_i write
        obtain rfl : op = 2 := write
        split at h
        · cases h
          exact .inl ⟨rfl, .unmeasured high low subindex⟩
        · rename_i length value
          split at h
          · rename_i beyond
            cases h
            exact .inr ⟨rfl, high, low, subindex, length, value, rfl, beyond⟩
          · rename_i within
            split at h
            · rename_i missing
              cases h
              exact .inl ⟨rfl, .cut (Nat.not_lt.1 within) missing⟩
            · cases h
      · rename_i write
        cases h
        exact .inl ⟨rfl, .unknown read write _⟩
  · rename_i few
    cases h
    refine .inl ⟨rfl, .short (Nat.not_le.1 fun four => ?_)⟩
    obtain ⟨a, b, c, d, rest, rfl⟩ : ∃ a b c d rest, octets = a :: b :: c :: d :: rest := by
      rcases octets with _ | ⟨a, _ | ⟨b, _ | ⟨c, _ | ⟨d, rest⟩⟩⟩⟩
      all_goals first | exact ⟨a, b, c, d, rest, rfl⟩ | simp at four
    exact few a b c d rest rfl

end Access

/-! ## Control codes -/

/-- The codes are those up to five. -/
theorem Control.isSome_find? : ∀ octet : UInt8,
    (all.find? (·.code == octet)).isSome = true ↔ octet ≠ 0 ∧ octet ≤ 5 :=
  forall_octet (by decide +kernel)

theorem Control.decode_of_known {octet : UInt8} (known : octet ≤ 5) :
    ∃ c, decode octet = .ok c := by
  unfold decode
  by_cases zero : octet = 0
  · exact ⟨none, if_pos zero⟩
  · obtain ⟨c, found⟩ := Option.isSome_iff_exists.1 ((isSome_find? octet).2 ⟨zero, known⟩)
    exact ⟨some c, by rw [if_neg zero, found]⟩

theorem Control.decode_of_unknown {octet : UInt8} (unknown : 5 < octet) :
    decode octet = .error .protocol := by
  have none : all.find? (·.code == octet) = none := by
    rw [← Option.not_isSome_iff_eq_none, isSome_find?]
    exact fun known => absurd known.2 (UInt8.not_le.2 unknown)
  unfold decode
  rw [if_neg (fun zero => by rw [zero] at unknown; exact absurd unknown (by decide)), none]

/-! ## Frames -/

namespace MasterFrame

/-- The control octet holds no control code in its low seven bits, or its top bit announces an
access and there is none. -/
def Malformed (frame : Octets) : Prop :=
  ∃ head rest, frame.dropLast = head :: rest ∧
    (5 < head &&& 0x7F ∨ head &&& 0x80 ≠ 0 ∧ Access.Malformed rest)

/-- The control code is known, and the access that is announced is too long a write. -/
def Oversized (frame : Octets) : Prop :=
  ∃ head rest, frame.dropLast = head :: rest ∧
    head &&& 0x7F ≤ 5 ∧ head &&& 0x80 ≠ 0 ∧ Access.Oversized rest

theorem decode_sealed_cons (head : UInt8) (rest : Octets) :
    decode (sealed (head :: rest)) = ofBody (head :: rest) :=
  bind_unsealed_sealed (List.cons_ne_nil head rest)

theorem ofBody_of_unknown {head : UInt8} (unknown : 5 < head &&& 0x7F) (rest : Octets) :
    ofBody (head :: rest) = .error .protocol := by
  have control : Control.decode (head &&& ~~~accessFlag) = .error .protocol :=
    Control.decode_of_unknown unknown
  rw [ofBody, control]
  rfl

theorem ofBody_of_access_error {head : UInt8} {rest : Octets} {cause : Failure}
    (known : head &&& 0x7F ≤ 5) (flagged : head &&& 0x80 ≠ 0)
    (access : Access.decode rest = .error cause) : ofBody (head :: rest) = .error cause := by
  obtain ⟨c, control⟩ := Control.decode_of_known known
  rw [ofBody_flagged rest control flagged, access]
  rfl

theorem decode_of_malformed {frame : Octets} (intact : Intact frame) (h : Malformed frame) :
    decode frame = .error .protocol := by
  obtain ⟨head, rest, rfl⟩ := intact.exists_header
  obtain ⟨_, _, same, fault⟩ := h
  cases (dropLast_sealed (head :: rest)).symm.trans same
  rw [decode_sealed_cons]
  by_cases known : head &&& 0x7F ≤ 5
  · obtain ⟨flagged, malformed⟩ := fault.resolve_left (UInt8.not_lt.2 known)
    exact ofBody_of_access_error known flagged (Access.decode_of_malformed malformed)
  · exact ofBody_of_unknown (UInt8.not_le.1 known) rest

theorem decode_of_oversized {frame : Octets} (intact : Intact frame) (h : Oversized frame) :
    decode frame = .error .overflow := by
  obtain ⟨head, rest, rfl⟩ := intact.exists_header
  obtain ⟨_, _, same, known, flagged, oversized⟩ := h
  cases (dropLast_sealed (head :: rest)).symm.trans same
  rw [decode_sealed_cons]
  exact ofBody_of_access_error known flagged (Access.decode_of_oversized oversized)

/-- An intact frame is unreadable for one of two reasons. -/
theorem cases_of_decode_error {frame : Octets} {cause : Failure} (intact : Intact frame)
    (h : decode frame = .error cause) :
    cause = .protocol ∧ Malformed frame ∨ cause = .overflow ∧ Oversized frame := by
  obtain ⟨head, rest, rfl⟩ := intact.exists_header
  have body := dropLast_sealed (head :: rest)
  rw [decode_sealed_cons] at h
  by_cases known : head &&& 0x7F ≤ 5
  · obtain ⟨c, control⟩ := Control.decode_of_known known
    by_cases plain : head &&& 0x80 = 0
    · rw [ofBody_plain rest control plain] at h
      cases h
    · rw [ofBody_flagged rest control plain] at h
      cases access : Access.decode rest with
      | ok found =>
        rw [access] at h
        cases h
      | error other =>
        rw [access] at h
        cases h
        rcases Access.cases_of_decode_error access with ⟨rfl, malformed⟩ | ⟨rfl, oversized⟩
        · exact .inl ⟨rfl, head, rest, body, .inr ⟨plain, malformed⟩⟩
        · exact .inr ⟨rfl, head, rest, body, known, plain, oversized⟩
  · have unknown := UInt8.not_le.1 known
    rw [ofBody_of_unknown unknown] at h
    cases h
    exact .inl ⟨rfl, head, rest, body, .inl unknown⟩

/-! ## One failure after the other -/

/-- The checksum is blamed for nothing else, and everything else comes after it. -/
theorem decode_eq_badChecksum_iff {frame : Octets} :
    decode frame = .error .badChecksum ↔ ¬Intact frame := by
  refine ⟨fun h intact => ?_, bind_unsealed_of_not_intact⟩
  rcases cases_of_decode_error intact h with ⟨other, -⟩ | ⟨other, -⟩ <;> cases other

theorem decode_eq_protocol_iff {frame : Octets} :
    decode frame = .error .protocol ↔ Intact frame ∧ Malformed frame := by
  refine ⟨fun h => ?_, fun h => decode_of_malformed h.1 h.2⟩
  have intact : Intact frame := Decidable.not_not.1 fun broken => by
    cases (decode_eq_badChecksum_iff.2 broken).symm.trans h
  rcases cases_of_decode_error intact h with ⟨-, malformed⟩ | ⟨other, -⟩
  · exact ⟨intact, malformed⟩
  · cases other

theorem decode_eq_overflow_iff {frame : Octets} :
    decode frame = .error .overflow ↔ Intact frame ∧ Oversized frame := by
  refine ⟨fun h => ?_, fun h => decode_of_oversized h.1 h.2⟩
  have intact : Intact frame := Decidable.not_not.1 fun broken => by
    cases (decode_eq_badChecksum_iff.2 broken).symm.trans h
  rcases cases_of_decode_error intact h with ⟨other, -⟩ | ⟨-, oversized⟩
  · cases other
  · exact ⟨intact, oversized⟩

/-- Of the failures only a bad checksum may have gone by the next time. -/
theorem recoverable_iff_of_decode {frame : Octets} {cause : Failure}
    (h : decode frame = .error cause) : cause.recoverable = true ↔ ¬Intact frame := by
  by_cases intact : Intact frame
  · rcases cases_of_decode_error intact h with ⟨rfl, -⟩ | ⟨rfl, -⟩
    · exact iff_of_false Bool.false_ne_true (absurd intact)
    · exact iff_of_false Bool.false_ne_true (absurd intact)
  · obtain rfl := Except.error.inj (h.symm.trans (decode_eq_badChecksum_iff.2 intact))
    exact iff_of_true rfl intact

end MasterFrame

end Sdci
