import Mathlib.Algebra.Ring.Parity
import Sdci.Proofs.Codec.Malformed

/-! # Which changes the checksum shows

Adding octets is linear, and so is folding the sum to six bits. So a change in front of the checksum
octet shows exactly if the sum of all the differences does not fold to zero, and that depends on
nothing else in the frame. Folding keeps the parity of the sum but not all of it: eight octets fold
to zero.

* `fold_xor`: folding is linear.
* `flips`, `change`: the number of bits that differ in two octet strings, and the sum of the
  differences.
* `checksum_of_change`: the checksum of octets after a change.
* `fold_eq_zero_iff`: what folds to zero.
* `checksum_detects`: the changes that are found, and exactly those that are not.
-/

namespace Sdci
set_option autoImplicit false

/-! ## Folding is linear -/

theorem xor_and_right (a b c : UInt8) : (a ^^^ b) &&& c = (a &&& c) ^^^ (b &&& c) := by
  apply UInt8.toBitVec_inj.1
  ext i
  simp [Bool.and_xor_distrib_right]

theorem bitAt_xor (a b n : UInt8) : bitAt (a ^^^ b) n = bitAt a n ^^^ bitAt b n := by
  rw [bitAt, UInt8.shiftRight_xor, xor_and_right]
  rfl

/-- The six bits do not overlap, so adding them is as good as joining them. -/
theorem fold_eq_xor : ∀ acc : UInt8, fold acc =
    (bitAt acc 7 ^^^ bitAt acc 5 ^^^ bitAt acc 3 ^^^ bitAt acc 1) <<< 5 ^^^
    (bitAt acc 6 ^^^ bitAt acc 4 ^^^ bitAt acc 2 ^^^ bitAt acc 0) <<< 4 ^^^
    (bitAt acc 7 ^^^ bitAt acc 6) <<< 3 ^^^
    (bitAt acc 5 ^^^ bitAt acc 4) <<< 2 ^^^
    (bitAt acc 3 ^^^ bitAt acc 2) <<< 1 ^^^
    (bitAt acc 1 ^^^ bitAt acc 0) := forall_octet (by decide +kernel)

theorem fold_xor (a b : UInt8) : fold (a ^^^ b) = fold a ^^^ fold b := by
  simp only [fold_eq_xor, bitAt_xor, UInt8.shiftLeft_xor]
  ac_rfl

/-- Neighbouring bits are equal, and an even number of the pairs are ones. -/
theorem fold_eq_zero_iff : ∀ acc : UInt8, fold acc = 0 ↔
    (∀ k < 4, acc.toNat.testBit (2 * k) = acc.toNat.testBit (2 * k + 1)) ∧
      Even ((List.range 4).countP fun k => acc.toNat.testBit (2 * k)) :=
  forall_octet (by decide +kernel)

/-! ## The number of bits -/

/-- The number of ones in an octet. -/
def weight (n : UInt8) : Nat := (List.range 8).countP n.toNat.testBit

theorem weight_eq_zero_iff : ∀ n : UInt8, weight n = 0 ↔ n = 0 := forall_octet (by decide +kernel)

/-- The top two bits of a checksum hold the parity of what was folded. -/
theorem weight_mod_two : ∀ n : UInt8,
    weight n % 2 = (bitAt (fold n) 5 ^^^ bitAt (fold n) 4).toNat := forall_octet (by decide +kernel)

theorem and_one : ∀ n : UInt8, n &&& 1 = 0 ∨ n &&& 1 = 1 := forall_octet (by decide +kernel)

theorem weight_xor_mod_two (a b : UInt8) : weight (a ^^^ b) % 2 = (weight a + weight b) % 2 := by
  have parity (n : UInt8) :
      bitAt (fold n) 5 ^^^ bitAt (fold n) 4 = ((fold n >>> 5) ^^^ (fold n >>> 4)) &&& 1 :=
    (xor_and_right ..).symm
  have sum : bitAt (fold (a ^^^ b)) 5 ^^^ bitAt (fold (a ^^^ b)) 4 =
      (bitAt (fold a) 5 ^^^ bitAt (fold a) 4) ^^^ (bitAt (fold b) 5 ^^^ bitAt (fold b) 4) := by
    rw [fold_xor, bitAt_xor, bitAt_xor]
    ac_rfl
  rw [weight_mod_two, sum, Nat.add_mod, weight_mod_two a, weight_mod_two b, parity a, parity b]
  rcases and_one ((fold a >>> 5) ^^^ (fold a >>> 4)) with ha | ha <;>
    rcases and_one ((fold b >>> 5) ^^^ (fold b >>> 4)) with hb | hb <;> rw [ha, hb] <;> rfl

theorem fold_ne_zero_of_odd {n : UInt8} (odd : Odd (weight n)) : fold n ≠ 0 := by
  intro zero
  have even := weight_mod_two n
  rw [zero, Nat.odd_iff.1 odd] at even
  exact absurd even (by decide)

/-! ## Differences of octet strings -/

def differences (before after : Octets) : Octets := List.zipWith (· ^^^ ·) before after

/-- The bits in which two octet strings of one length differ. -/
def flips (before after : Octets) : Nat := ((differences before after).map weight).sum

/-- The sum of the differences of two octet strings of one length. -/
def change (before after : Octets) : UInt8 := (differences before after).foldl (· ^^^ ·) 0

section Differences

variable {before after : Octets}

theorem foldl_differences (same : before.length = after.length) (s t : UInt8) :
    after.foldl (· ^^^ ·) (s ^^^ t) =
      before.foldl (· ^^^ ·) s ^^^ (differences before after).foldl (· ^^^ ·) t := by
  induction before generalizing after s t with
  | nil =>
    cases after with
    | nil => rfl
    | cons y ys => cases same
  | cons x xs ih =>
    cases after with
    | nil => cases same
    | cons y ys =>
      -- The difference is added to one sum, and the octet before the change to the other.
      have split : s ^^^ t ^^^ y = (s ^^^ x) ^^^ (t ^^^ (x ^^^ y)) := by
        have cancel : (s ^^^ x) ^^^ (t ^^^ (x ^^^ y)) = (s ^^^ t ^^^ y) ^^^ (x ^^^ x) := by ac_rfl
        rw [cancel, UInt8.xor_self, UInt8.xor_zero]
      change ys.foldl _ (s ^^^ t ^^^ y) = _
      rw [split, ih (Nat.succ.inj same)]
      rfl

/-- The checksum changes by what the sum of the differences folds to. -/
theorem checksum_of_change (same : before.length = after.length) :
    checksum after = checksum before ^^^ fold (change before after) := by
  have sum := foldl_differences same seed 0
  rw [UInt8.xor_zero] at sum
  rw [checksum, sum, fold_xor]
  rfl

theorem weight_foldl_mod_two (octets : Octets) (s : UInt8) :
    weight (octets.foldl (· ^^^ ·) s) % 2 = (weight s + (octets.map weight).sum) % 2 := by
  induction octets generalizing s with
  | nil => rfl
  | cons x xs ih =>
    rw [List.foldl_cons, ih, Nat.add_mod, weight_xor_mod_two, ← Nat.add_mod, Nat.add_assoc]
    rfl

theorem weight_change_mod_two (before after : Octets) :
    weight (change before after) % 2 = flips before after % 2 := by
  rw [change, weight_foldl_mod_two]
  exact congrArg (· % 2) (Nat.zero_add _)

theorem eq_of_flips_eq_zero (same : before.length = after.length)
    (none : flips before after = 0) : before = after := by
  induction before generalizing after with
  | nil =>
    cases after with
    | nil => rfl
    | cons y ys => cases same
  | cons x xs ih =>
    cases after with
    | nil => cases same
    | cons y ys =>
      obtain ⟨first, rest⟩ := Nat.add_eq_zero_iff.1 none
      rw [UInt8.xor_eq_zero_iff.1 ((weight_eq_zero_iff _).1 first), ih (Nat.succ.inj same) rest]

theorem differences_concat (same : before.length = after.length) (x y : UInt8) :
    differences (before ++ [x]) (after ++ [y]) = differences before after ++ [x ^^^ y] :=
  List.zipWith_append same

theorem flips_concat (same : before.length = after.length) (x y : UInt8) :
    flips (before ++ [x]) (after ++ [y]) = flips before after + weight (x ^^^ y) := by
  rw [flips, differences_concat same, List.map_append, List.sum_append]
  rfl

theorem change_concat (same : before.length = after.length) (x y : UInt8) :
    change (before ++ [x]) (after ++ [y]) = change before after ^^^ (x ^^^ y) := by
  rw [change, differences_concat same, List.foldl_append]
  rfl

end Differences

/-! ## Changed frames -/

theorem intact_concat_iff {body : Octets} (some : body ≠ []) (last : UInt8) :
    Intact (body ++ [last]) ↔ last = checksum body := by
  constructor
  · rintro ⟨-, -, right⟩
    rwa [List.getLastD_concat, List.dropLast_concat, checksum_append_zero] at right
  · rintro rfl
    exact intact_sealed some

section Frames

variable {body front : Octets} {last : UInt8}

/-- With the checksum octet unchanged, a frame stays intact if the sum of the differences folds to
zero. -/
theorem intact_change_iff (some : body ≠ []) (same : body.length = front.length) :
    Intact (front ++ [checksum body]) ↔
      fold (change (sealed body) (front ++ [checksum body])) = 0 := by
  have filled : front ≠ [] :=
    List.ne_nil_of_length_pos (by rw [← same]; exact List.length_pos_iff.2 some)
  rw [intact_concat_iff filled, checksum_of_change same, sealed, change_concat same,
    UInt8.xor_self, UInt8.xor_zero]
  constructor
  · intro kept
    rw [← UInt8.xor_right_inj (checksum body), UInt8.xor_zero]
    exact kept.symm
  · intro none
    rw [none, UInt8.xor_zero]

theorem not_intact_of_odd (some : body ≠ []) (same : body.length = front.length)
    (odd : Odd (flips (sealed body) (front ++ [checksum body]))) :
    ¬Intact (front ++ [checksum body]) := by
  rw [intact_change_iff some same]
  refine fold_ne_zero_of_odd ?_
  rw [Nat.odd_iff, weight_change_mod_two]
  exact Nat.odd_iff.1 odd

theorem not_intact_of_flip (some : body ≠ []) (same : body.length = front.length)
    (one : flips (sealed body) (front ++ [last]) = 1) : ¬Intact (front ++ [last]) := by
  by_cases kept : last = checksum body
  · subst kept
    exact not_intact_of_odd some same (one ▸ odd_one)
  · -- The bit is one of the checksum octet, and nothing is left for the octets before it.
    rw [sealed, flips_concat same] at one
    have differs : weight (checksum body ^^^ last) ≠ 0 := fun zero =>
      kept (UInt8.xor_eq_zero_iff.1 ((weight_eq_zero_iff _).1 zero)).symm
    obtain rfl := eq_of_flips_eq_zero same (by omega)
    rwa [intact_concat_iff some]

end Frames

/-- Let `other` be as long as a frame that is intact. If they differ in an odd number of bits before
the checksum octet, or in nothing but the checksum octet, or in a single bit, neither decoder reads
`other`. A change that leaves the checksum octet alone is missed exactly if the sum of the
differences folds to zero, whatever the frame was. -/
theorem checksum_detects {frame body other : Octets} (read : unsealed frame = .ok body)
    (same : other.length = frame.length) :
    (other.getLast? = frame.getLast? → Odd (flips frame other) →
      DeviceFrame.decode other = .error .badChecksum ∧
        MasterFrame.decode other = .error .badChecksum) ∧
    (other.dropLast = frame.dropLast → other ≠ frame →
      DeviceFrame.decode other = .error .badChecksum ∧
        MasterFrame.decode other = .error .badChecksum) ∧
    (flips frame other = 1 →
      DeviceFrame.decode other = .error .badChecksum ∧
        MasterFrame.decode other = .error .badChecksum) ∧
    (other.getLast? = frame.getLast? →
      let d := change frame other
      (unsealed other = .ok other.dropLast ↔ fold d = 0) ∧
      (DeviceFrame.decode other ≠ .error .badChecksum ↔ fold d = 0) ∧
      (MasterFrame.decode other ≠ .error .badChecksum ↔ fold d = 0) ∧
      (fold d = 0 ↔ (∀ k < 4, d.toNat.testBit (2 * k) = d.toNat.testBit (2 * k + 1)) ∧
        Even ((List.range 4).countP fun k => d.toNat.testBit (2 * k)))) := by
  obtain ⟨some, rfl⟩ := unsealed_eq_ok_iff.1 read
  obtain ⟨front, last, rfl⟩ : ∃ front last, other = front ++ [last] := by
    rcases other.eq_nil_or_concat with rfl | ⟨front, last, rfl⟩
    · rw [length_sealed] at same
      cases same
    · exact ⟨front, last, List.concat_eq_append⟩
  have long : body.length = front.length := by
    rw [length_sealed, List.length_append] at same
    exact (Nat.succ.inj same).symm
  have detected (broken : ¬Intact (front ++ [last])) :
      DeviceFrame.decode (front ++ [last]) = .error .badChecksum ∧
        MasterFrame.decode (front ++ [last]) = .error .badChecksum :=
    ⟨DeviceFrame.decode_eq_badChecksum_iff.2 broken,
      MasterFrame.decode_eq_badChecksum_iff.2 broken⟩
  have kept (unchanged : (front ++ [last]).getLast? = (sealed body).getLast?) :
      last = checksum body := by
    rw [sealed, List.getLast?_concat, List.getLast?_concat] at unchanged
    exact Option.some.inj unchanged
  refine ⟨fun unchanged odd => ?_, fun unchanged changed => ?_, fun one => ?_, fun unchanged => ?_⟩
  · obtain rfl := kept unchanged
    exact detected (not_intact_of_odd some long odd)
  · rw [dropLast_sealed, List.dropLast_concat] at unchanged
    subst unchanged
    refine detected fun intact => changed ?_
    rw [(intact_concat_iff some last).1 intact]
    rfl
  · exact detected (not_intact_of_flip some long one)
  · obtain rfl := kept unchanged
    intro d
    have missed : Intact (front ++ [checksum body]) ↔ fold d = 0 := intact_change_iff some long
    refine ⟨?_, ?_, ?_, fold_eq_zero_iff d⟩
    · rw [unsealed_dropLast_iff, missed]
    · rw [Ne, DeviceFrame.decode_eq_badChecksum_iff, not_not, missed]
    · rw [Ne, MasterFrame.decode_eq_badChecksum_iff, not_not, missed]

/-- One bit is found, in whichever octet it is; two pairs of neighbours are missed. -/
theorem checksum_detects_flip_misses_pairs :
    let frame := sealed [1, 7]
    let flip := [1, 7 ^^^ 0x20, checksum [1, 7]]
    let last := [1, 7, checksum [1, 7] ^^^ 0x20]
    let pairs := [1, 7 ^^^ 0x0F, checksum [1, 7]]
    unsealed frame = .ok [1, 7] ∧
      flips frame flip = 1 ∧ DeviceFrame.decode flip = .error .badChecksum ∧
      flips frame last = 1 ∧ MasterFrame.decode last = .error .badChecksum ∧
      flips frame pairs = 4 ∧ unsealed pairs = .ok [1, 7 ^^^ 0x0F] := by
  intro frame flip last pairs
  have read : unsealed frame = .ok [1, 7] := unsealed_sealed (by simp)
  have one : flips frame flip = 1 := by decide +kernel
  have one' : flips frame last = 1 := by decide +kernel
  have four : flips frame pairs = 4 := by decide +kernel
  have none : fold (change frame pairs) = 0 := by decide +kernel
  have long (other : Octets) (three : other.length = 3) : other.length = frame.length := three
  exact ⟨read, one, ((checksum_detects read (long flip rfl)).2.2.1 one).1,
    one', ((checksum_detects read (long last rfl)).2.2.1 one').2,
    four, ((checksum_detects read (long pairs rfl)).2.2.2 rfl).1.2 none⟩

end Sdci
