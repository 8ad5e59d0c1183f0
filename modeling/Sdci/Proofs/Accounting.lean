import Sdci.Proofs.Counters
import Sdci.Proofs.Synchrony

/-! # Exchange accounting

Every frame that the transceiver takes is accounted for: it is answered, its attempt fails, the link
stops in the middle of it, or it is still on the line. And every failure is followed by another
attempt or by the end of communication.

* `Event.cutsShort`: the link stops in the middle of a transfer.
* `Event.exhausts`: the link stops because an exchange has failed too often.
* `Device.Accounts`: the balance of transfers, and that of failures.
* `Session.Reach.exchange_accounting`: the same in terms of the counters.
-/

namespace Sdci
set_option autoImplicit false

namespace Event

@[simp] def cutsShort : Event → Bool
  | linkEvent source event => source.isTransferring && (linkEvent source event).entersFault
  | _ => false

/-- The link stops when more attempts in a row have failed than the limit has retries for. -/
def exhausts (limit : Nat) (before : Trace) (e : Event) : Bool :=
  e.entersFault && decide (limit < before.failures)

theorem cutsShort_eq_false {e : Event} (stays : e.entersFault = false) : e.cutsShort = false := by
  cases e
  case linkEvent source event => rw [cutsShort, stays, Bool.and_false]
  all_goals rfl

/-- A fatal error ends a transfer if one is under way. -/
theorem cutsShort_fatalError (source : Link) :
    (linkEvent source .fatalError).cutsShort = source.isTransferring := by
  cases source <;> rfl

theorem stepwise_taken : Stepwise fun _ e => e.taken?.isSome := by
  intro e m inert
  dsimp only
  rw [inert.untaken]
  rfl

theorem stepwise_isFailure : Stepwise fun _ => isFailure := fun _ _ inert => inert.unfailing

theorem stepwise_cutsShort : Stepwise fun _ => cutsShort :=
  fun _ _ inert => cutsShort_eq_false inert.stays

theorem stepwise_exhausts (limit : Nat) : Stepwise (exhausts limit) := by
  intro e m inert
  rw [exhausts, inert.stays]
  rfl

end Event

open Trace Event

theorem Trace.length_transfers (t : Trace) :
    t.transfers.length = t.occurrences fun _ e => e.taken?.isSome := by
  induction t with
  | nil => rfl
  | cons e t ih =>
    rw [transfers, occurrences, List.length_append, ih]
    cases e.taken? <;> rfl

theorem Failure.one_of_recoverable {cause : Failure} (minor : cause.recoverable = true) :
    (cause == .badChecksum).toNat + (cause == .badFrame).toNat + (cause == .timeout).toNat = 1 := by
  cases cause <;> first | rfl | cases minor

namespace Device

/-- Every frame that was taken is accounted for, and so is every failure. -/
structure Accounts (limit : Nat) (d : Device) (t : Trace) : Prop where
  transfers : (t.occurrences fun _ e => e.taken?.isSome) =
    (t.occurrences fun _ => succeeds) + (t.occurrences fun _ => isFailure) +
      (t.occurrences fun _ => cutsShort) + d.link.isTransferring.toNat
  failures : t.occurrences (grants limit) + t.occurrences (exhausts limit) =
    t.occurrences fun _ => isFailure
  causes : t.occurrences (failsBy .badChecksum) + t.occurrences (failsBy .badFrame) +
    t.occurrences (failsBy .timeout) = t.occurrences fun _ => isFailure

variable {d u : Device} {es t : Trace}

theorem Course.transfers (course : d.Course t es u)
    (before : (t.occurrences fun _ e => e.taken?.isSome) =
      (t.occurrences fun _ => Event.succeeds) + (t.occurrences fun _ => isFailure) +
        (t.occurrences fun _ => cutsShort) + d.link.isTransferring.toNat) :
    ((es ++ t).occurrences fun _ e => e.taken?.isSome) =
      ((es ++ t).occurrences fun _ => Event.succeeds) + ((es ++ t).occurrences fun _ => isFailure) +
        ((es ++ t).occurrences fun _ => cutsShort) + u.link.isTransferring.toNat := by
  have taken := stepwise_taken
  have answered := stepwise_succeeds
  have failed := stepwise_isFailure
  have cut := stepwise_cutsShort
  cases course with
  | apart aside tally completed frame link =>
    rw [aside.occurrences taken, aside.occurrences answered, aside.occurrences failed,
      aside.occurrences cut, link]
    exact before
  | switch idle aside =>
    have away : d.link.isTransferring = false := by
      cases link : d.link <;> rw [link] at idle <;> first | rfl | cases idle
    rw [taken.switch aside, answered.switch aside, failed.switch aside, cut.switch aside,
      cutsShort, away]
    rw [away] at before
    exact before
  | launch link chosen =>
    rw [link] at before ⊢
    exact congrArg (· + 1) before
  | answer link reply aside tally completed dropped active =>
    rw [taken.answer aside, answered.answer aside, failed.answer aside, cut.answer aside, active,
      link]
    rw [link] at before
    change _ + 0 = _ + 1 + (_ + 0) + (_ + 0) + 0
    change _ = _ + _ + _ + 1 at before
    omega
  | retry link mishap left =>
    rw [taken.retry mishap, answered.retry mishap, failed.retry mishap, cut.retry mishap, link]
    rw [link] at before
    change _ + 0 = _ + 0 + (_ + 1) + (_ + 0) + 0
    change _ = _ + _ + _ + 1 at before
    omega
  | exhaust link mishap spent aside =>
    rw [taken.exhaust mishap aside, answered.exhaust mishap aside, failed.exhaust mishap aside,
      cut.exhaust mishap aside, link]
    rw [link] at before
    change _ + 0 + 0 = _ + 0 + 0 + (_ + 1 + 0) + (_ + 0 + 0) + 0
    change _ = _ + _ + _ + 1 at before
    omega
  | fault fatal aside =>
    rw [taken.fault fatal aside, answered.fault fatal aside, failed.fault fatal aside,
      cut.fault fatal aside, cutsShort_fatalError]
    change _ + 0 = _ + 0 + (_ + 0) + (_ + _) + 0
    omega

theorem Course.failures (course : d.Course t es u) {limit : Nat}
    (same : d.config.maxRetries.toNat = limit) (most : t.failures ≤ limit)
    (before : t.occurrences (grants limit) + t.occurrences (exhausts limit) =
      t.occurrences fun _ => isFailure) :
    (es ++ t).occurrences (grants limit) + (es ++ t).occurrences (exhausts limit) =
      (es ++ t).occurrences fun _ => isFailure := by
  have granted := stepwise_grants limit
  have exhausted := stepwise_exhausts limit
  have failed := stepwise_isFailure
  cases course with
  | apart aside =>
    rw [aside.occurrences granted, aside.occurrences exhausted, aside.occurrences failed]
    exact before
  | switch idle aside =>
    rw [granted.switch aside, exhausted.switch aside, failed.switch aside, exhausts,
      alive_of_idle idle]
    exact before
  | launch link chosen =>
    simpa [occurrences, grants, exhausts, isFailure, link, Link.next] using before
  | answer link reply aside tally completed dropped active =>
    rw [granted.answer aside, exhausted.answer aside, failed.answer aside, link]
    simpa [grants, exhausts, isFailure, Link.next] using before
  | retry link mishap left =>
    rw [granted.retry mishap, exhausted.retry mishap, failed.retry mishap, link]
    simp [grants, exhausts, isFailure, Link.next, mishap.inert.failures, same ▸ left]
    omega
  | exhaust link mishap spent aside =>
    rw [granted.exhaust mishap aside, exhausted.exhaust mishap aside, failed.exhaust mishap aside,
      exhausts, exhausts, mishap.failures, link]
    simp [grants, isFailure, mishap.inert.failures, same ▸ spent, Link.next]
    omega
  | fault fatal aside =>
    have left : ¬limit < Trace.failures _ := Nat.not_lt.2 ((fatal.inert.failures t).trans_le most)
    rw [granted.fault fatal aside, exhausted.fault fatal aside, failed.fault fatal aside, exhausts,
      decide_eq_false left, Bool.and_false]
    exact before

theorem Course.causes (course : d.Course t es u)
    (before : t.occurrences (failsBy .badChecksum) + t.occurrences (failsBy .badFrame) +
      t.occurrences (failsBy .timeout) = t.occurrences fun _ => isFailure) :
    (es ++ t).occurrences (failsBy .badChecksum) + (es ++ t).occurrences (failsBy .badFrame) +
      (es ++ t).occurrences (failsBy .timeout) = (es ++ t).occurrences fun _ => isFailure := by
  have blamed := stepwise_failsBy
  have failed := stepwise_isFailure
  cases course with
  | apart aside =>
    simpa only [aside.occurrences (blamed _), aside.occurrences failed] using before
  | switch idle aside =>
    rw [(blamed _).switch aside, (blamed _).switch aside, (blamed _).switch aside,
      failed.switch aside]
    exact before
  | launch link chosen => exact before
  | answer link reply aside tally completed dropped active =>
    rw [(blamed _).answer aside, (blamed _).answer aside, (blamed _).answer aside,
      failed.answer aside]
    exact before
  | retry link mishap left =>
    rename_i p mode cause e
    rw [(blamed _).retry mishap, (blamed _).retry mishap, (blamed _).retry mishap,
      failed.retry mishap, mishap.failsBy_eq, mishap.failsBy_eq, mishap.failsBy_eq]
    have one := Failure.one_of_recoverable mishap.minor
    change _ = _ + 1
    omega
  | exhaust link mishap spent aside =>
    rename_i p mode cause e es
    rw [(blamed _).exhaust mishap aside, (blamed _).exhaust mishap aside,
      (blamed _).exhaust mishap aside, failed.exhaust mishap aside, mishap.failsBy_eq,
      mishap.failsBy_eq, mishap.failsBy_eq]
    have one := Failure.one_of_recoverable mishap.minor
    change _ + 0 + (_ + 0) + (_ + 0) = _ + 1 + 0
    omega
  | fault fatal aside =>
    rw [(blamed _).fault fatal aside, (blamed _).fault fatal aside, (blamed _).fault fatal aside,
      failed.fault fatal aside]
    exact before

theorem Run.accounts {c : Config} (h : Run c d t) : d.Accounts c.maxRetries.toNat t := by
  induction h with
  | start => exact ⟨rfl, rfl, rfl⟩
  | move before last ih =>
    have course := before.course last
    have limit := congrArg (·.maxRetries.toNat) before.config_eq
    have most := before.failures_le.trans_eq limit
    exact ⟨course.transfers ih.transfers, course.failures limit most ih.failures,
      course.causes ih.causes⟩

/-- None of the counters that tell of exchanges is full. -/
structure Unsaturated (d : Device) : Prop where
  completed : d.cycles.completed ≠ 0xFFFFFFFFFFFFFFFF
  badChecksums : d.tally.badChecksums ≠ 0xFFFFFFFF
  badFrames : d.tally.badFrames ≠ 0xFFFFFFFF
  timeouts : d.tally.timeouts ≠ 0xFFFFFFFF
  retries : d.tally.retries ≠ 0xFFFFFFFF

theorem Tallied.failures {limit : Nat} (h : d.Tallied limit t) (below : d.Unsaturated)
    (accounts : d.Accounts limit t) :
    d.tally.badChecksums.toNat + d.tally.badFrames.toNat + d.tally.timeouts.toNat =
      t.occurrences fun _ => isFailure := by
  rw [← accounts.causes, ← toNat_of_count32 (h.errors .badChecksum rfl) below.badChecksums,
    ← toNat_of_count32 (h.errors .badFrame rfl) below.badFrames,
    ← toNat_of_count32 (h.errors .timeout rfl) below.timeouts]
  rfl

/-- A timer other than that of a transfer stops the link, if anything. -/
theorem Move.eq_faulted_of_expiry (h : Move .expiry d es u) (supervised : d.Supervised)
    {timer : Timer} (due : d.line.timers.due? d.lastTick = some timer) (other : timer ≠ .transfer) :
    u = d.faulted := by
  have unanswered {cause : Failure} {e : Event} (mishap : Mishap d .expiry cause e) : False := by
    cases mishap with
    | unanswered late => exact other (Option.some.inj (due.symm.trans late))
  cases h with
  | retry link mishap => exact (unanswered mishap).elim
  | exhaust link mishap => exact (unanswered mishap).elim
  | fault => rfl
  | stale id late idle => exact absurd (supervised.watches_of_due late) (by simp [idle])

end Device

namespace Session

open Device

variable {σ : Type} [Transceiver σ] [Application σ] {s : Session σ}

/-- In every run, as long as no counter is full, the frames that the transceiver has taken are those
that were answered, those whose attempt failed by one of the three causes, those in the middle of
which the link stopped, and the one on the line, if any; and the failures are those that were
answered by a retry and those that stopped the link because the retries were used up. No counter
ever decreases, and the timers of mode switches and cycles, which stop the link, leave all counters
but that of the faults as they are. -/
theorem Reach.exchange_accounting (h : Reach s) :
    let n := s.device.tally
    let failures := n.badChecksums.toNat + n.badFrames.toNat + n.timeouts.toNat
    (s.device.Unsaturated →
      s.env.trace.transfers.length = s.device.cycles.completed.toNat + failures +
          s.env.trace.countP cutsShort + s.link.isTransferring.toNat ∧
        n.retries.toNat +
          s.env.trace.occurrences (exhausts s.device.config.maxRetries.toNat) = failures) ∧
    (∀ t, Relation.ReflTransGen Step s t → s.device.Grows t.device) ∧
    ∀ now u timer, s.Expires now u → u.device.line.timers.due? now = some timer →
      timer ≠ .transfer →
      (u.serveTimer timer).link = .fault ∧
        (u.serveTimer timer).device.tally =
          { u.device.tally with faults := bump32 u.device.tally.faults } := by
  intro n failures
  obtain ⟨c, -, run⟩ := h.run
  refine ⟨fun below => ?_, fun t steps => grows_of_steps steps,
    fun now u timer expires due other => ?_⟩
  · have accounts := run.accounts
    have tallied := run.tallied
    have limit := congrArg (·.maxRetries.toNat) run.config_eq
    have counted : failures = _ := tallied.failures below accounts
    have completed := toNat_of_count64 tallied.completed below.completed
    have retries := toNat_of_count32 tallied.retries below.retries
    have cut := stepwise_cutsShort.bare (fun _ _ => rfl) s.env.trace
    have exhausted := (stepwise_exhausts c.maxRetries.toNat).bare
      (fun e m => by rw [exhausts, failures_bare, exhausts]) s.env.trace
    constructor
    · rw [← transfers_bare, length_transfers, accounts.transfers, counted, completed, cut,
        occurrences_const cutsShort]
      rfl
    · rw [counted, ← accounts.failures, limit, ← exhausted, ← retries]
  · obtain ⟨time, run⟩ := expires.run run
    rw [← time] at due
    obtain ⟨es, -, move⟩ := makes_serveTimer due
    have stopped := move.eq_faulted_of_expiry run.supervised due other
    rw [link, stopped]
    exact ⟨rfl, rfl⟩

/-- The first frame was not answered in time and is on the line again. -/
theorem exchange_accounting_resent :
    Reach Bench.resent ∧ Bench.resent.device.Unsaturated ∧
      Bench.resent.env.trace.transfers.length = 2 ∧
      Bench.resent.device.tally.retries.toNat = 1 := by
  have reach := Bench.reach_resent
  have below : Bench.resent.device.Unsaturated := by constructor <;> decide +kernel
  have failed : Bench.resent.device.tally.badChecksums.toNat +
      Bench.resent.device.tally.badFrames.toNat + Bench.resent.device.tally.timeouts.toNat = 1 := by
    decide +kernel
  have completed : Bench.resent.device.cycles.completed = 0 := by decide +kernel
  have cut : Bench.resent.env.trace.countP cutsShort = 0 := by decide +kernel
  have link : Bench.resent.link = .transferring .com1 := by decide +kernel
  have exhausted : Bench.resent.env.trace.occurrences
      (exhausts Bench.resent.device.config.maxRetries.toNat) = 0 := by decide +kernel
  obtain ⟨transfers, failures⟩ := reach.exchange_accounting.1 below
  rw [failed, completed, cut, link] at transfers
  rw [failed, exhausted] at failures
  exact ⟨reach, below, transfers, failures⟩

end Session

end Sdci
