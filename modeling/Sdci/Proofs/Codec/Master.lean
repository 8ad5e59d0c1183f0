import Sdci.Frame.Master
import Sdci.Proofs.Codec.Access
import Sdci.Proofs.Codec.Seal

/-! # Master frames on the wire

A frame is read as the one frame that is written in its octets. Only a write that is too long has
none of its own: its length octet holds the length modulo 256.

* `MasterFrame.Short`: the frame asks for no write that is too long.
* `MasterFrame.ofBody_body`, `MasterFrame.short_of_ofBody`: both directions, without the checksum.
* `MasterFrame.decode_eq_ok_iff`: what is read is what was written.
* `MasterFrame.oversized_write_refused_iff`: what becomes of a write that is too long.
-/

namespace Sdci
set_option autoImplicit false

namespace Control

theorem encode_of_decode {octet : UInt8} {c : Option Control} (h : decode octet = .ok c) :
    encode c = octet := by
  unfold decode at h
  split at h
  · rename_i zero
    cases h
    exact zero.symm
  · split at h
    · rename_i found
      cases h
      have code := List.find?_some found
      exact beq_iff_eq.1 code
    · cases h

end Control

namespace MasterFrame

def Short (f : MasterFrame) : Prop := ∀ a, f.access = some a → a.Short

/-! ## The control octet -/

theorem encode_and_flag (c : Option Control) :
    Control.encode c &&& accessFlag = 0 ∧
      Control.encode c &&& ~~~accessFlag = Control.encode c := by
  rcases c with _ | c
  · decide
  · cases c <;> decide

theorem flagged_and_flag (c : Option Control) :
    (Control.encode c ||| accessFlag) &&& accessFlag ≠ 0 ∧
      (Control.encode c ||| accessFlag) &&& ~~~accessFlag = Control.encode c := by
  rcases c with _ | c
  · decide
  · cases c <;> decide

theorem and_flag_eq : ∀ head : UInt8,
    (head &&& accessFlag = 0 → head &&& ~~~accessFlag = head) ∧
      (head &&& accessFlag ≠ 0 → head &&& ~~~accessFlag ||| accessFlag = head) :=
  forall_octet (by decide +kernel)

/-! ## One octet after the other -/

section Octets

variable {head : UInt8} {c : Option Control} (rest : Octets)

theorem ofBody_plain (control : Control.decode (head &&& ~~~accessFlag) = .ok c)
    (plain : head &&& accessFlag = 0) : ofBody (head :: rest) = .ok ⟨c, none, rest⟩ := by
  rw [ofBody, control]
  exact if_pos plain

theorem ofBody_flagged (control : Control.decode (head &&& ~~~accessFlag) = .ok c)
    (flagged : head &&& accessFlag ≠ 0) :
    ofBody (head :: rest) =
      (Access.decode rest).map fun found => ⟨c, some found.1, rest.drop found.2⟩ := by
  rw [ofBody, control]
  refine (if_neg flagged).trans ?_
  cases Access.decode rest <;> rfl

end Octets

/-- The access is written behind the control octet, and the output data behind the access. -/
theorem body_access (c : Option Control) (a : Access) (output : Octets) :
    body ⟨c, some a, output⟩ = (Control.encode c ||| accessFlag) :: (a.encode ++ output) := by
  change a.encodeInto [Control.encode c ||| accessFlag] ++ output = _
  rw [Access.encodeInto_eq]
  rfl

theorem ofBody_body {f : MasterFrame} (short : f.Short) : ofBody f.body = .ok f := by
  obtain ⟨c, access, output⟩ := f
  cases access with
  | none =>
    obtain ⟨plain, kept⟩ := encode_and_flag c
    exact ofBody_plain output (by rw [kept, Control.decode_encode]) plain
  | some a =>
    obtain ⟨flagged, kept⟩ := flagged_and_flag c
    rw [body_access, ofBody_flagged _ (by rw [kept, Control.decode_encode]) flagged,
      Access.decode_encode_append (short a rfl)]
    change Except.ok (⟨c, some a, (a.encode ++ output).drop a.encode.length⟩ : MasterFrame) = _
    rw [List.drop_left]

theorem short_of_ofBody {body : Octets} {f : MasterFrame} (h : ofBody body = .ok f) :
    f.Short ∧ f.body = body := by
  cases body with
  | nil => cases h
  | cons head rest =>
    cases control : Control.decode (head &&& ~~~accessFlag) with
    | error cause =>
      rw [ofBody, control] at h
      cases h
    | ok c =>
      have lead := Control.encode_of_decode control
      obtain ⟨plainly, flaggedly⟩ := and_flag_eq head
      by_cases plain : head &&& accessFlag = 0
      · rw [ofBody_plain rest control plain] at h
        cases h
        refine ⟨nofun, ?_⟩
        change Control.encode c :: rest = head :: rest
        rw [lead, plainly plain]
      · rw [ofBody_flagged rest control plain] at h
        cases found : Access.decode rest with
        | error cause =>
          rw [found] at h
          cases h
        | ok result =>
          obtain ⟨a, used⟩ := result
          rw [found] at h
          cases h
          obtain ⟨short, rfl, output, rfl⟩ := Access.decode_front_iff.1 found
          refine ⟨fun b same => Option.some.inj same ▸ short, ?_⟩
          rw [body_access, lead, flaggedly plain, List.drop_left]

theorem body_ne_nil (f : MasterFrame) : f.body ≠ [] := by
  obtain ⟨c, access, output⟩ := f
  cases access with
  | none => exact List.cons_ne_nil _ _
  | some a =>
    rw [body_access]
    exact List.cons_ne_nil _ _

/-- The octets that are read as a frame are those that it is written in, and they can be read unless
the frame asks for too long a write. -/
theorem decode_eq_ok_iff (frame : Octets) (f : MasterFrame) :
    decode frame = .ok f ↔ f.Short ∧ f.encode = frame := by
  unfold decode
  rw [bind_unsealed_eq_ok_iff]
  constructor
  · rintro ⟨body, -, rfl, read⟩
    obtain ⟨short, rfl⟩ := short_of_ofBody read
    exact ⟨short, rfl⟩
  · rintro ⟨short, rfl⟩
    exact ⟨f.body, f.body_ne_nil, rfl, ofBody_body short⟩

/-! ## Writes that are too long -/

/-- The octets of a write that the length octet does not count are read as output data. -/
theorem decode_encode_write (c : Option Control) (index : UInt16) (subindex : UInt8)
    (value output : Octets) :
    decode (encode ⟨c, some (.write index subindex value), output⟩) =
      if maxValue < value.length % 256 then .error .overflow
      else .ok ⟨c, some (.write index subindex (value.take (value.length % 256))),
        value.drop (value.length % 256) ++ output⟩ := by
  obtain ⟨flagged, kept⟩ := flagged_and_flag c
  unfold decode encode
  rw [bind_unsealed_sealed (body_ne_nil _), body_access,
    ofBody_flagged _ (by rw [kept, Control.decode_encode]) flagged, Access.decode_write]
  split
  · rfl
  · change Except.ok (⟨c, some _, (_ ++ output).drop (5 + value.length % 256)⟩ : MasterFrame) = _
    have less : value.length % 256 ≤ value.length := Nat.mod_le ..
    have rest : ((Access.write index subindex value).encode ++ output).drop
        (5 + value.length % 256) = value.drop (value.length % 256) ++ output := by
      rw [← List.drop_drop, ← List.drop_append_of_le_length less]
      rfl
    rw [rest]

/-- A write of more octets than are allowed is refused just when its length modulo 256 is still
above the limit. Otherwise the frame is read as another one, with another value and other output
data. -/
theorem oversized_write_refused_iff {c : Option Control} {index : UInt16} {subindex : UInt8}
    {value output : Octets} (long : maxValue < value.length) :
    let sent : MasterFrame := ⟨c, some (.write index subindex value), output⟩
    (decode sent.encode = .error .overflow ↔ maxValue < value.length % 256) ∧
      (value.length % 256 ≤ maxValue → ∃ f : MasterFrame,
        decode sent.encode = .ok f ∧ f.control = c ∧
          f.access = some (.write index subindex (value.take (value.length % 256))) ∧
          f.output = value.drop (value.length % 256) ++ output ∧
          f.access ≠ sent.access ∧ f.output ≠ sent.output) := by
  intro sent
  rw [decode_encode_write]
  constructor
  · split
    · rename_i beyond
      exact ⟨fun _ => beyond, fun _ => rfl⟩
    · rename_i within
      exact ⟨nofun, fun beyond => absurd beyond within⟩
  · intro within
    rw [if_neg (Nat.not_lt.2 within)]
    refine ⟨_, rfl, rfl, rfl, rfl, ?_, ?_⟩
    · intro same
      have cut := congrArg List.length (Access.write.inj (Option.some.inj same)).2.2
      rw [List.length_take] at cut
      omega
    · intro same
      have more := congrArg List.length same
      rw [List.length_append, List.length_drop] at more
      change value.length - value.length % 256 + output.length = output.length at more
      omega

/-- One octet more than allowed is refused. -/
theorem write_of_33_refused :
    let value : Octets := List.replicate 33 0
    maxValue < value.length ∧
      decode (encode ⟨none, some (.write 1 0 value), []⟩) = .error .overflow :=
  ⟨by decide, (oversized_write_refused_iff (by decide)).1.2 (by decide)⟩

/-- With 256 octets the length octet is zero: an empty write, and 256 octets of output data. -/
theorem write_of_256_misread :
    let value : Octets := List.replicate 256 0
    maxValue < value.length ∧
      decode (encode ⟨none, some (.write 1 0 value), []⟩) =
        .ok ⟨none, some (.write 1 0 []), value⟩ ∧
      decode (encode ⟨none, some (.write 1 0 value), []⟩) ≠ .error .overflow := by
  intro value
  have long : value.length = 256 := List.length_replicate
  have read : decode (encode ⟨none, some (.write 1 0 value), []⟩) =
      .ok ⟨none, some (.write 1 0 []), value⟩ := by
    rw [decode_encode_write, long, if_neg (by decide)]
    simp
  refine ⟨by rw [long]; decide, read, ?_⟩
  rw [read]
  exact nofun

end MasterFrame

end Sdci
