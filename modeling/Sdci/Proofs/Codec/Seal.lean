import Sdci.Checksum

/-! # Sealed frames

Whether a frame is read at all depends on its last octet.

* `Intact`: the last octet of a frame is what it should be.
* `unsealed_eq_ok_iff`: a frame that is read is a sealed one, and is read as what was sealed.
* `bind_unsealed_eq_ok_iff`, `bind_unsealed_of_not_intact`: the same for what comes of reading it.
-/

namespace Sdci
set_option autoImplicit false

/-! ## Six bits -/

theorem fold_and : ∀ acc : UInt8, fold acc &&& 0xC0 = 0 := forall_octet (by decide +kernel)

/-- A checksum leaves the top two bits of its octet alone. -/
theorem checksum_and (data : Octets) : checksum data &&& 0xC0 = 0 := fold_and _

/-! ## Intact frames -/

/-- There is an octet before the last one, the top two bits of the last octet are zero, and it is
the checksum of the frame with a zero in its place. -/
def Intact (frame : Octets) : Prop :=
  2 ≤ frame.length ∧ frame.getLastD 0 &&& 0xC0 = 0 ∧
    frame.getLastD 0 = checksum (frame.dropLast ++ [0])

instance Intact.decidable : DecidablePred Intact := fun _ => inferInstanceAs (Decidable (_ ∧ _ ∧ _))

@[simp] theorem length_sealed (body : Octets) : (sealed body).length = body.length + 1 := by
  simp [sealed]

theorem dropLast_sealed (body : Octets) : (sealed body).dropLast = body := List.dropLast_concat

theorem sealed_inj {b c : Octets} : sealed b = sealed c ↔ b = c := by
  refine ⟨fun same => ?_, fun same => by rw [same]⟩
  have cut := congrArg List.dropLast same
  rwa [dropLast_sealed, dropLast_sealed] at cut

theorem intact_sealed {body : Octets} (some : body ≠ []) : Intact (sealed body) := by
  have last : (sealed body).getLastD 0 = checksum body := by simp [sealed]
  refine ⟨?_, ?_, ?_⟩
  · have := List.length_pos_iff.2 some
    rw [length_sealed]
    omega
  · rw [last]
    exact checksum_and body
  · rw [last, dropLast_sealed, checksum_append_zero]

theorem Intact.exists_sealed {frame : Octets} (h : Intact frame) :
    ∃ body, body ≠ [] ∧ frame = sealed body := by
  obtain ⟨two, -, last⟩ := h
  have some : frame ≠ [] := List.ne_nil_of_length_pos (by omega)
  refine ⟨frame.dropLast, ?_, ?_⟩
  · refine List.ne_nil_of_length_pos ?_
    rw [List.length_dropLast]
    omega
  · rw [checksum_append_zero, List.getLastD_eq_getLast?, List.getLast?_eq_some_getLast some,
      Option.getD_some] at last
    rw [sealed, ← last, List.dropLast_concat_getLast some]

/-! ## Reading -/

theorem unsealed_eq_ok_iff {frame body : Octets} :
    unsealed frame = .ok body ↔ body ≠ [] ∧ frame = sealed body := by
  constructor
  · intro h
    dsimp only [unsealed] at h
    split at h
    · rename_i right
      obtain ⟨some, last⟩ := right
      cases h
      have nonempty : frame ≠ [] := by
        rintro rfl
        exact some rfl
      rw [List.getLast?_eq_some_getLast nonempty, Option.some.injEq] at last
      exact ⟨some, by rw [sealed, ← last, List.dropLast_concat_getLast nonempty]⟩
    · cases h
  · rintro ⟨some, rfl⟩
    exact unsealed_sealed some

theorem unsealed_dropLast_iff {frame : Octets} :
    unsealed frame = .ok frame.dropLast ↔ Intact frame := by
  rw [unsealed_eq_ok_iff]
  constructor
  · rintro ⟨some, same⟩
    rw [same]
    exact intact_sealed some
  · intro intact
    obtain ⟨body, some, rfl⟩ := intact.exists_sealed
    rw [dropLast_sealed]
    exact ⟨some, rfl⟩

theorem unsealed_of_not_intact {frame : Octets} (h : ¬Intact frame) :
    unsealed frame = .error .badChecksum := by
  cases read : unsealed frame with
  | ok body =>
    obtain ⟨some, rfl⟩ := unsealed_eq_ok_iff.1 read
    exact absurd (intact_sealed some) h
  | error cause =>
    dsimp only [unsealed] at read
    split at read
    · cases read
    · cases read
      rfl

section Bind

variable {α : Type} {ofBody : Octets → Except Failure α} {frame : Octets}

theorem bind_unsealed_sealed {body : Octets} (some : body ≠ []) :
    (unsealed (sealed body) >>= ofBody) = ofBody body := by
  rw [unsealed_sealed some]
  rfl

theorem bind_unsealed_of_not_intact (h : ¬Intact frame) :
    (unsealed frame >>= ofBody) = .error .badChecksum := by
  rw [unsealed_of_not_intact h]
  rfl

theorem bind_unsealed_eq_ok_iff {a : α} :
    (unsealed frame >>= ofBody) = .ok a ↔
      ∃ body, body ≠ [] ∧ frame = sealed body ∧ ofBody body = .ok a := by
  constructor
  · intro h
    by_cases intact : Intact frame
    · obtain ⟨body, some, rfl⟩ := intact.exists_sealed
      rw [bind_unsealed_sealed some] at h
      exact ⟨body, some, rfl, h⟩
    · rw [bind_unsealed_of_not_intact intact] at h
      cases h
  · rintro ⟨body, some, rfl, h⟩
    rw [bind_unsealed_sealed some, h]

end Bind

end Sdci
