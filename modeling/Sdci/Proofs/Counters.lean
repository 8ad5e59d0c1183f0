import Sdci.Proofs.Conversation
import Sdci.Proofs.Course

/-! # What the counters count

Each counter of a device is the number of events of its kind, up to the most that it can show. So
what holds of the counters can be shown of histories alone.

* `Tally.errors`: the error counter of a cause.
* `Event.failsBy`, `Event.grants`: a failure with its cause, and one that is answered by a retry.
* `Device.Tallied`, `Device.Run.tallied`: what the counters show.
* `Device.Grows`, `Session.grows_of_steps`: no counter ever decreases.
-/

namespace Sdci
set_option autoImplicit false

/-! ## Counters that stay full -/

theorem le_bump32 (n : UInt32) : n ≤ bump32 n := by
  have top := n.toNat_lt
  rw [UInt32.le_iff_toNat_le, toNat_bump32]
  omega

theorem le_bump64 (n : UInt64) : n ≤ bump64 n := by
  have top := n.toNat_lt
  rw [UInt64.le_iff_toNat_le, toNat_bump64]
  omega

theorem toNat_bump32_of_count {n : UInt32} {k : Nat} (h : n.toNat = min k 0xFFFFFFFF) :
    (bump32 n).toNat = min (k + 1) 0xFFFFFFFF := by
  rw [toNat_bump32]
  omega

theorem toNat_bump64_of_count {n : UInt64} {k : Nat} (h : n.toNat = min k 0xFFFFFFFFFFFFFFFF) :
    (bump64 n).toNat = min (k + 1) 0xFFFFFFFFFFFFFFFF := by
  rw [toNat_bump64]
  omega

/-- A counter that is not full has missed nothing. -/
theorem toNat_of_count32 {n : UInt32} {k : Nat} (h : n.toNat = min k 0xFFFFFFFF)
    (below : n ≠ 0xFFFFFFFF) : n.toNat = k := by
  have other : n.toNat ≠ 0xFFFFFFFF := fun full => below (UInt32.toNat_inj.1 full)
  omega

theorem toNat_of_count64 {n : UInt64} {k : Nat} (h : n.toNat = min k 0xFFFFFFFFFFFFFFFF)
    (below : n ≠ 0xFFFFFFFFFFFFFFFF) : n.toNat = k := by
  have other : n.toNat ≠ 0xFFFFFFFFFFFFFFFF := fun full => below (UInt64.toNat_inj.1 full)
  omega

namespace Tally

/-- The counter of the failures with a cause; some causes have none. -/
def errors (t : Tally) : Failure → UInt32
  | .badChecksum => t.badChecksums
  | .badFrame => t.badFrames
  | .timeout => t.timeouts
  | _ => 0

/-- A failure is counted in the counter of its cause and in no other. -/
theorem errors_failed (t : Tally) {cause : Failure} (minor : cause.recoverable = true)
    (other : Failure) :
    (t.failed cause).errors other =
      if cause = other then bump32 (t.errors other) else t.errors other := by
  cases cause <;> cases other <;> first | rfl | cases minor

@[simp] theorem errors_retried (t : Tally) (cause : Failure) :
    t.retried.errors cause = t.errors cause := by
  cases cause <;> rfl

@[simp] theorem errors_faulted (t : Tally) (cause : Failure) :
    t.faulted.errors cause = t.errors cause := by
  cases cause <;> rfl

@[simp] theorem retries_failed (t : Tally) (cause : Failure) :
    (t.failed cause).retries = t.retries := by
  cases cause <;> rfl

@[simp] theorem faults_failed (t : Tally) (cause : Failure) :
    (t.failed cause).faults = t.faults := by
  cases cause <;> rfl

/-- No counter has decreased. -/
structure Grows (a b : Tally) : Prop where
  badChecksums : a.badChecksums ≤ b.badChecksums
  badFrames : a.badFrames ≤ b.badFrames
  timeouts : a.timeouts ≤ b.timeouts
  retries : a.retries ≤ b.retries
  faults : a.faults ≤ b.faults

namespace Grows

theorem refl (a : Tally) : a.Grows a :=
  ⟨UInt32.le_refl _, UInt32.le_refl _, UInt32.le_refl _, UInt32.le_refl _, UInt32.le_refl _⟩

theorem trans {a b c : Tally} (h₁ : a.Grows b) (h₂ : b.Grows c) : a.Grows c where
  badChecksums := UInt32.le_trans h₁.badChecksums h₂.badChecksums
  badFrames := UInt32.le_trans h₁.badFrames h₂.badFrames
  timeouts := UInt32.le_trans h₁.timeouts h₂.timeouts
  retries := UInt32.le_trans h₁.retries h₂.retries
  faults := UInt32.le_trans h₁.faults h₂.faults

theorem failed (a : Tally) (cause : Failure) : a.Grows (a.failed cause) := by
  have same := refl a
  cases cause with
  | badChecksum => exact { same with badChecksums := le_bump32 _ }
  | badFrame => exact { same with badFrames := le_bump32 _ }
  | timeout => exact { same with timeouts := le_bump32 _ }
  | _ => exact same

theorem retried (a : Tally) : a.Grows a.retried := { refl a with retries := le_bump32 _ }

theorem faulted (a : Tally) : a.Grows a.faulted := { refl a with faults := le_bump32 _ }

end Grows

end Tally

@[simp] theorem Cycles.completed_sent (c : Cycles) (data : Option Octets) :
    (c.sent data).completed = c.completed := by
  cases data <;> rfl

/-! ## What is counted -/

namespace Event

/-- An attempt fails with this cause. -/
def failsBy (cause : Failure) (before : Trace) (e : Event) : Bool :=
  e.isFailure && before.blame == some cause

/-- An attempt fails, and the limit allows another. -/
def grants (limit : Nat) (before : Trace) (e : Event) : Bool :=
  e.isFailure && decide (before.failures < limit)

theorem stepwise_failsBy (cause : Failure) : Stepwise (failsBy cause) := by
  intro e m inert
  rw [failsBy, inert.unfailing]
  rfl

theorem stepwise_grants (limit : Nat) : Stepwise (grants limit) := by
  intro e m inert
  rw [grants, inert.unfailing]
  rfl

theorem stepwise_isFatal : Stepwise fun _ => isFatal := fun _ _ inert => inert.alive

theorem stepwise_succeeds : Stepwise fun _ => succeeds := fun _ _ inert => inert.unanswered

end Event

open Trace Event

namespace Device

theorem Mishap.minor {d : Device} {p : Phase} {cause : Failure} {e : Event}
    (h : Mishap d p cause e) : cause.recoverable = true := by
  cases h with
  | garbled decode minor => exact minor
  | spoilt fault => cases fault <;> rfl
  | unanswered => rfl

theorem Mishap.blame_eq {d : Device} {p : Phase} {cause : Failure} {e : Event}
    (h : Mishap d p cause e) (t : Trace) : blame (e :: t) = some cause := by
  rw [blame, List.findSome?_cons, h.cause_eq]

theorem Mishap.failsBy_eq {d : Device} {p : Phase} {cause : Failure} {e : Event}
    (h : Mishap d p cause e) (t : Trace) (source : Link) (other : Failure) :
    failsBy other (e :: t) (.linkEvent source .recoverableError) = (cause == other) := by
  simp [failsBy, isFailure, h.blame_eq]

theorem Mishap.grants_eq {d : Device} {p : Phase} {cause : Failure} {e : Event}
    (h : Mishap d p cause e) (t : Trace) (source : Link) (limit : Nat) :
    grants limit (e :: t) (.linkEvent source .recoverableError) = decide (t.failures < limit) := by
  simp [grants, isFailure, h.inert.failures]

/-- The counters show how often the device has failed by each cause, has been given another attempt,
has stopped and has succeeded. -/
structure Tallied (limit : Nat) (d : Device) (t : Trace) : Prop where
  errors : ∀ cause, cause.recoverable = true →
    (d.tally.errors cause).toNat = min (t.occurrences (failsBy cause)) 0xFFFFFFFF
  retries : d.tally.retries.toNat = min (t.occurrences (grants limit)) 0xFFFFFFFF
  faults : d.tally.faults.toNat = min (t.occurrences fun _ => isFatal) 0xFFFFFFFF
  completed :
    d.cycles.completed.toNat = min (t.occurrences fun _ => succeeds) 0xFFFFFFFFFFFFFFFF

/-! ## One move -/

/-- A failure is counted by its cause. -/
theorem toNat_errors_failed {tally : Tally} {d : Device} {p : Phase} {cause other : Failure}
    {e : Event} {source : Link} {t : Trace} (mishap : Mishap d p cause e)
    (before : (tally.errors other).toNat = min (t.occurrences (failsBy other)) 0xFFFFFFFF) :
    ((tally.failed cause).errors other).toNat =
      min (t.occurrences (failsBy other) +
        (failsBy other (e :: t) (.linkEvent source .recoverableError)).toNat) 0xFFFFFFFF := by
  rw [mishap.failsBy_eq, Tally.errors_failed _ mishap.minor]
  by_cases same : cause = other
  · rw [if_pos same, beq_iff_eq.2 same]
    exact toNat_bump32_of_count before
  · rw [if_neg same, beq_false_of_ne same]
    exact before

variable {d u : Device} {es t : Trace}

theorem Course.errors (course : d.Course t es u) {cause : Failure}
    (before : (d.tally.errors cause).toNat = min (t.occurrences (failsBy cause)) 0xFFFFFFFF) :
    (u.tally.errors cause).toNat =
      min ((es ++ t).occurrences (failsBy cause)) 0xFFFFFFFF := by
  have steps := stepwise_failsBy cause
  cases course with
  | apart aside tally =>
    rw [tally, aside.occurrences steps]
    exact before
  | switch idle aside =>
    rw [steps.switch aside]
    exact before
  | launch => exact before
  | answer link reply aside tally =>
    rw [tally, steps.answer aside]
    exact before
  | retry link mishap left =>
    rw [steps.retry mishap]
    exact (congrArg _ (Tally.errors_retried ..)).trans (toNat_errors_failed mishap before)
  | exhaust link mishap spent aside =>
    rw [steps.exhaust mishap aside]
    exact (congrArg _ (Tally.errors_faulted ..)).trans (toNat_errors_failed mishap before)
  | fault fatal aside =>
    rw [steps.fault fatal aside]
    exact (congrArg _ (Tally.errors_faulted ..)).trans before

theorem Course.retries (course : d.Course t es u) {limit : Nat}
    (same : d.config.maxRetries.toNat = limit)
    (before : d.tally.retries.toNat = min (t.occurrences (grants limit)) 0xFFFFFFFF) :
    u.tally.retries.toNat = min ((es ++ t).occurrences (grants limit)) 0xFFFFFFFF := by
  have steps := stepwise_grants limit
  cases course with
  | apart aside tally =>
    rw [tally, aside.occurrences steps]
    exact before
  | switch idle aside =>
    rw [steps.switch aside]
    exact before
  | launch => exact before
  | answer link reply aside tally =>
    rw [tally, steps.answer aside]
    exact before
  | retry link mishap left =>
    rw [steps.retry mishap, mishap.grants_eq, decide_eq_true (same ▸ left)]
    refine toNat_bump32_of_count (Eq.trans ?_ before)
    exact congrArg _ (Tally.retries_failed ..)
  | exhaust link mishap spent aside =>
    have none : ¬t.failures < limit := by omega
    rw [steps.exhaust mishap aside, mishap.grants_eq, decide_eq_false none]
    exact (congrArg _ (Tally.retries_failed ..)).trans before
  | fault fatal aside =>
    rw [steps.fault fatal aside]
    exact before

theorem Course.faults (course : d.Course t es u)
    (before : d.tally.faults.toNat = min (t.occurrences fun _ => isFatal) 0xFFFFFFFF) :
    u.tally.faults.toNat = min ((es ++ t).occurrences fun _ => isFatal) 0xFFFFFFFF := by
  have steps := stepwise_isFatal
  cases course with
  | apart aside tally =>
    rw [tally, aside.occurrences steps]
    exact before
  | switch idle aside =>
    rw [steps.switch aside]
    exact before
  | launch => exact before
  | answer link reply aside tally =>
    rw [tally, steps.answer aside]
    exact before
  | retry link mishap left =>
    rw [steps.retry mishap]
    exact (congrArg _ (Tally.faults_failed ..)).trans before
  | exhaust link mishap spent aside =>
    rw [steps.exhaust mishap aside]
    refine toNat_bump32_of_count (Eq.trans ?_ before)
    exact congrArg _ (Tally.faults_failed ..)
  | fault fatal aside =>
    rw [steps.fault fatal aside]
    exact toNat_bump32_of_count before

theorem Course.completed (course : d.Course t es u)
    (before : d.cycles.completed.toNat =
      min (t.occurrences fun _ => succeeds) 0xFFFFFFFFFFFFFFFF) :
    u.cycles.completed.toNat =
      min ((es ++ t).occurrences fun _ => succeeds) 0xFFFFFFFFFFFFFFFF := by
  have steps := stepwise_succeeds
  cases course with
  | apart aside tally completed =>
    rw [completed, aside.occurrences steps]
    exact before
  | switch idle aside =>
    rw [steps.switch aside]
    exact before
  | launch => exact (congrArg UInt64.toNat (Cycles.completed_sent ..)).trans before
  | answer link reply aside tally completed =>
    rw [completed, steps.answer aside]
    exact toNat_bump64_of_count before
  | retry link mishap left =>
    rw [steps.retry mishap]
    exact before
  | exhaust link mishap spent aside =>
    rw [steps.exhaust mishap aside]
    exact before
  | fault fatal aside =>
    rw [steps.fault fatal aside]
    exact before

theorem Run.tallied {c : Config} (h : Run c d t) : d.Tallied c.maxRetries.toNat t := by
  induction h with
  | start => exact ⟨fun cause minor => by cases cause <;> rfl, rfl, rfl, rfl⟩
  | move before last ih =>
    have course := before.course last
    have limit := congrArg (·.maxRetries.toNat) before.config_eq
    exact ⟨fun cause minor => course.errors (ih.errors cause minor),
      course.retries limit ih.retries, course.faults ih.faults, course.completed ih.completed⟩

/-! ## Counters that grow -/

/-- No counter has decreased, that of the valid exchanges included. -/
structure Grows (d u : Device) : Prop where
  tally : d.tally.Grows u.tally
  completed : d.cycles.completed ≤ u.cycles.completed

theorem Grows.refl (d : Device) : d.Grows d := ⟨.refl _, UInt64.le_refl _⟩

theorem Grows.trans {v : Device} (h₁ : d.Grows u) (h₂ : u.Grows v) : d.Grows v :=
  ⟨h₁.tally.trans h₂.tally, UInt64.le_trans h₁.completed h₂.completed⟩

theorem Move.grows {p : Phase} (h : Move p d es u) : d.Grows u := by
  cases h with
  | exchange link decode fits settles =>
    rw [settles.eq]
    exact ⟨.refl _, le_bump64 _⟩
  | retry => exact ⟨(Tally.Grows.failed ..).trans (.retried _), UInt64.le_refl _⟩
  | exhaust => exact ⟨(Tally.Grows.failed ..).trans (.faulted _), UInt64.le_refl _⟩
  | fault => exact ⟨.faulted _, UInt64.le_refl _⟩
  | launch =>
    refine ⟨.refl _, ?_⟩
    rw [show (launched ..).cycles = d.cycles.sent _ from rfl, Cycles.completed_sent]
    exact UInt64.le_refl _
  | _ => exact ⟨.refl _, UInt64.le_refl _⟩

theorem Moves.grows {p : Phase} (h : Moves p d es u) : d.Grows u := by
  induction h with
  | refl => exact .refl _
  | tail before last ih => exact ih.trans last.grows

end Device

namespace Session

open Device

variable {σ : Type} {s t : Session σ}

theorem Performs.grows {p : Phase} (h : Performs p s t) : s.device.Grows t.device := by
  obtain ⟨es, -, moves⟩ := h
  exact moves.grows

variable [Transceiver σ] [Application σ]

theorem Step.grows (h : Step s t) : s.device.Grows t.device := by
  cases h with
  | tick now =>
    obtain ⟨entered, polled, expired, worked⟩ := s.performs_tick now
    exact ((entered.performs.grows.trans polled.performs.grows).trans expired.grows).trans
      worked.grows
  | submit r own => exact (s.makes_submit own).performs.grows
  | mapHost f => exact .refl _

theorem grows_of_steps (h : Relation.ReflTransGen Step s t) : s.device.Grows t.device := by
  induction h with
  | refl => exact .refl _
  | tail before next ih => exact ih.trans next.grows

end Session

end Sdci
