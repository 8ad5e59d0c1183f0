import Sdci.Access

/-! # Answers on the wire

An answer that succeeded and one that failed have the same layout, and only the status octet tells
them apart. No failure has the code 0 and no two have the same, so the master can take an answer
apart again.

* `Failure.ofCode?`: the failure that a status octet stands for.
* `Answer.decode?`: what the master makes of the octets of an answer.
* `Answer.decode?_encode`, `Answer.encode_of_decode?`: it undoes writing an answer, and reads no
  other octets.
* `Answer.unambiguous`: no two answers are written in the same octets.
-/

namespace Sdci
set_option autoImplicit false

/-! ## Status octets -/

namespace Failure

def ofCode? (c : UInt8) : Option Failure := all.find? (·.code == c)

theorem ofCode?_code (f : Failure) : ofCode? f.code = some f := by cases f <;> rfl

theorem code_of_ofCode? {c : UInt8} {f : Failure} (h : ofCode? c = some f) : f.code = c := by
  have found := List.find?_some h
  exact beq_iff_eq.1 found

theorem code_ne_zero (f : Failure) : f.code ≠ 0 := by cases f <;> decide

end Failure

/-! ## Taking an answer apart -/

namespace Answer

/-- Behind the status octet and the address stands the value, if the access has not failed. -/
def decode? : Octets → Option Answer
  | status :: high :: low :: subindex :: value =>
    if status = 0 then some ⟨join16 high low, subindex, .ok value⟩
    else if value = [] then
      (Failure.ofCode? status).map fun cause => ⟨join16 high low, subindex, .error cause⟩
    else none
  | _ => none

theorem decode?_encode (a : Answer) : decode? a.encode = some a := by
  obtain ⟨index, subindex, result⟩ := a
  cases result with
  | ok value =>
    change some (Answer.mk (join16 _ _) subindex (.ok value)) = _
    rw [join16_split16]
  | error cause =>
    change (if cause.code = 0 then _ else
      (Failure.ofCode? cause.code).map fun c => Answer.mk (join16 _ _) subindex (.error c)) = _
    rw [if_neg cause.code_ne_zero, Failure.ofCode?_code, join16_split16]
    rfl

theorem encode_of_decode? {octets : Octets} {a : Answer} (h : decode? octets = some a) :
    a.encode = octets := by
  unfold decode? at h
  split at h
  · rename_i status high low subindex value
    split at h
    · rename_i success
      subst success
      cases h
      change 0 :: (split16 (join16 high low) ++ subindex :: value) = _
      rw [split16_join16]
      rfl
    · split at h
      · rename_i empty
        subst empty
        obtain ⟨cause, found, rfl⟩ := Option.map_eq_some_iff.1 h
        change cause.code :: (split16 (join16 high low) ++ [subindex]) = _
        rw [split16_join16, Failure.code_of_ofCode? found]
        rfl
      · cases h
  · cases h

theorem decode?_eq_some_iff {octets : Octets} {a : Answer} :
    decode? octets = some a ↔ a.encode = octets := by
  refine ⟨encode_of_decode?, ?_⟩
  rintro rfl
  exact a.decode?_encode

theorem encode_injective : Function.Injective encode := by
  intro a b same
  apply Option.some.inj
  calc some a = decode? a.encode := a.decode?_encode.symm
    _ = decode? b.encode := congrArg decode? same
    _ = some b := b.decode?_encode

/-- An empty value is not a failure. -/
example : decode? [0, 0, 0x40, 2] = some ⟨0x40, 2, .ok []⟩ := rfl

/-- Different answers are written in different octets, whatever their values are. From the octets
alone the master reads the address, whether the access succeeded, and then the value or else the
failure, and it takes no other octets for an answer. -/
theorem unambiguous (a b : Answer) :
    (a.encode = b.encode ↔ a = b) ∧
      (a.encode = b.encode ↔
        a.index = b.index ∧ a.subindex = b.subindex ∧ a.result = b.result) ∧
      ∀ octets, decode? octets = some a ↔ a.encode = octets := by
  refine ⟨encode_injective.eq_iff, ?_, fun octets => decode?_eq_some_iff⟩
  rw [encode_injective.eq_iff]
  constructor
  · rintro rfl
    exact ⟨rfl, rfl, rfl⟩
  · rintro ⟨index, subindex, result⟩
    obtain ⟨_, _, _⟩ := a
    cases index
    cases subindex
    cases result
    rfl

end Answer

end Sdci
