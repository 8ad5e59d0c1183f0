import Sdci.Proofs.Codec.Malformed

/-! # Reading by position

A receiver has a frame as octets at positions and takes it apart position by position. The steps
below do so, and a position that lies outside is an outcome of its own, `none`, which no failure can
hide. What they read is what `MasterFrame.decode` reads, so each position they ask for is there.

* `slice?`: the octets between two positions.
* `unsealedAt`, `Access.decodeAt`, `MasterFrame.decodeAt`: the three decoders, step by step.
* `MasterFrame.decodeAt_eq`: no step leaves the frame, whatever its octets are.
-/

namespace Sdci
set_option autoImplicit false

/-- The octets from `start` up to `stop`, if both lie within. -/
def slice? (octets : Octets) (start stop : Nat) : Option Octets :=
  if start ≤ stop ∧ stop ≤ octets.length then some ((octets.take stop).drop start) else none

theorem slice?_to_length {octets : Octets} {start : Nat} (within : start ≤ octets.length) :
    slice? octets start octets.length = some (octets.drop start) := by
  rw [slice?, if_pos ⟨within, Nat.le_refl _⟩, List.take_length]

theorem slice?_from_zero {octets : Octets} {stop : Nat} (within : stop ≤ octets.length) :
    slice? octets 0 stop = some (octets.take stop) := by
  rw [slice?, if_pos ⟨Nat.zero_le _, within⟩, List.drop_zero]

/-- Octets behind a prefix. -/
theorem slice?_append (front rest : Octets) (count : Nat) :
    slice? (front ++ rest) front.length (front.length + count) =
      if count ≤ rest.length then some (rest.take count) else none := by
  unfold slice?
  rw [List.length_append]
  by_cases within : count ≤ rest.length
  · rw [if_pos (by omega), if_pos within, List.take_length_add_append, List.drop_left]
  · rw [if_neg (by omega), if_neg within]

/-! ## The checksum octet -/

/-- The last octet is split off and compared. -/
def unsealedAt (frame : Octets) : Option (Except Failure Octets) :=
  if frame.length < 2 then some (.error .badChecksum)
  else do
    let body ← slice? frame 0 (frame.length - 1)
    let last ← slice? frame (frame.length - 1) frame.length
    let received ← last[0]?
    if received &&& ~~~0x3F ≠ 0 then some (.error .badChecksum)
    else if checksum (body ++ [0]) ≠ received then some (.error .badChecksum)
    else some (.ok body)

/-- The bits above the checksum are zero in every checksum, so comparing is enough. -/
theorem fold_and_not : ∀ acc : UInt8, fold acc &&& ~~~0x3F = 0 := forall_octet (by decide +kernel)

theorem unsealedAt_concat {body : Octets} (some : body ≠ []) (last : UInt8) :
    unsealedAt (body ++ [last]) =
      Option.some (if checksum body = last then .ok body else .error .badChecksum) := by
  have pos := List.length_pos_iff.2 some
  have length : (body ++ [last]).length = body.length + 1 := List.length_append
  have front : slice? (body ++ [last]) 0 body.length = Option.some body := by
    rw [slice?_from_zero (by omega), List.take_left]
  have back : slice? (body ++ [last]) body.length (body.length + 1) = Option.some [last] :=
    slice?_append body [last] 1
  unfold unsealedAt
  rw [if_neg (by omega), length, Nat.add_sub_cancel, front, back]
  change (if last &&& ~~~0x3F ≠ 0 then _ else if checksum (body ++ [0]) ≠ last then _ else _) = _
  rw [checksum_append_zero]
  by_cases right : checksum body = last
  · subst right
    have low : checksum body &&& ~~~0x3F = 0 := fold_and_not _
    rw [if_neg (not_not_intro low), if_neg (not_not_intro rfl), if_pos rfl]
  · rw [if_neg right, if_pos right, ite_self]

theorem unsealedAt_eq (frame : Octets) : unsealedAt frame = some (unsealed frame) := by
  rcases frame.eq_nil_or_concat with rfl | ⟨body, last, rfl⟩
  · rfl
  · cases body with
    | nil => rfl
    | cons head rest =>
      rw [List.concat_eq_append, unsealedAt_concat (List.cons_ne_nil head rest), unsealed,
        List.dropLast_concat, List.getLast?_concat]
      refine congrArg some (ite_congr (propext ?_) (fun _ => rfl) fun _ => rfl)
      rw [Option.some.injEq, eq_comm, and_iff_right (List.cons_ne_nil head rest)]

/-! ## Accesses -/

namespace Access

/-- Behind the first four octets a position that is missing is a failure of the access. -/
def decodeAt (octets : Octets) : Option (Except Failure (Access × Nat)) :=
  if octets.length < 4 then some (.error .protocol)
  else do
    let high ← octets[1]?
    let low ← octets[2]?
    let subindex ← octets[3]?
    let op ← octets[0]?
    if op = readCode then some (.ok (read (join16 high low) subindex, 4))
    else if op = writeCode then
      match octets[4]? with
      | none => some (.error .protocol)
      | some length =>
        if maxValue < length.toNat then some (.error .overflow)
        else match slice? octets 5 (5 + length.toNat) with
          | none => some (.error .protocol)
          | some value =>
            some (.ok (write (join16 high low) subindex value, 5 + length.toNat))
    else some (.error .protocol)

theorem decodeAt_eq (octets : Octets) : decodeAt octets = some (decode octets) := by
  rcases octets with _ | ⟨op, _ | ⟨high, _ | ⟨low, _ | ⟨subindex, rest⟩⟩⟩⟩
  · rfl
  · rfl
  · rfl
  · rfl
  · unfold decodeAt
    rw [if_neg (by simp)]
    by_cases reads : op = readCode
    · subst reads
      rfl
    · by_cases writes : op = writeCode
      · obtain rfl : op = 2 := writes
        cases rest with
        | nil => rfl
        | cons length value =>
          have taken : slice? (2 :: high :: low :: subindex :: length :: value) 5
              (5 + length.toNat) = if length.toNat ≤ value.length then
                some (value.take length.toNat) else none :=
            slice?_append [2, high, low, subindex, length] value length.toNat
          rw [decode_write_octets]
          by_cases long : maxValue < length.toNat
          · rw [if_pos long]
            exact if_pos long
          · rw [if_neg long]
            refine (if_neg long).trans ?_
            rw [taken]
            by_cases missing : value.length < length.toNat
            · rw [if_neg (Nat.not_le.2 missing), if_pos missing]
            · rw [if_pos (Nat.not_lt.1 missing), if_neg missing]
      · exact (if_neg reads).trans ((if_neg writes).trans
          (congrArg some ((if_neg reads).trans (if_neg writes)).symm))

end Access

/-! ## Frames -/

namespace MasterFrame

def decodeAt (frame : Octets) : Option (Except Failure MasterFrame) := do
  match ← unsealedAt frame with
  | .error cause => some (.error cause)
  | .ok body =>
    let head ← body[0]?
    match Control.decode (head &&& ~~~accessFlag) with
    | .error cause => some (.error cause)
    | .ok control =>
      let rest ← slice? body 1 body.length
      if head &&& accessFlag = 0 then some (.ok ⟨control, none, rest⟩)
      else match ← Access.decodeAt rest with
        | .error cause => some (.error cause)
        | .ok (access, used) =>
          let output ← slice? rest used rest.length
          some (.ok ⟨control, some access, output⟩)

/-- Every position that reading a frame asks for is there. -/
theorem decodeAt_eq (frame : Octets) : decodeAt frame = some (decode frame) := by
  unfold decodeAt decode
  rw [unsealedAt_eq]
  cases read : unsealed frame with
  | error cause => rfl
  | ok body =>
    cases body with
    | nil => exact absurd rfl (unsealed_eq_ok_iff.1 read).1
    | cons head rest =>
      have tail : slice? (head :: rest) 1 (head :: rest).length = some rest :=
        slice?_to_length (Nat.le_add_left 1 rest.length)
      change (match Control.decode (head &&& ~~~accessFlag) with
        | .error cause => _ | .ok control => _) = some (ofBody (head :: rest))
      cases control : Control.decode (head &&& ~~~accessFlag) with
      | error cause =>
        rw [ofBody, control]
        rfl
      | ok c =>
        rw [tail]
        by_cases plain : head &&& accessFlag = 0
        · rw [ofBody_plain rest control plain]
          exact if_pos plain
        · rw [ofBody_flagged rest control plain]
          refine (if_neg plain).trans ?_
          rw [Access.decodeAt_eq]
          cases access : Access.decode rest with
          | error cause => rfl
          | ok found =>
            obtain ⟨a, used⟩ := found
            change (slice? rest used rest.length).bind _ = _
            rw [slice?_to_length (Access.used_le_of_decode access)]
            rfl

end MasterFrame

end Sdci
