import Sdci.Proofs.Counters
import Sdci.Proofs.Synchrony

/-! # Frames that are sent again

A device counts a retry when it keeps a frame for another attempt. The attempt is made in a later
tick, or never: whatever ends the exchange in between drops the frame.

* `Event.resends`: the transceiver takes a frame that it has taken before in the present exchange.
* `Event.abandons`: the exchange ends while its frame waits for another attempt.
* `Device.awaitsResend`: a frame waits for another attempt.
* `Session.Reach.retry_counter_iff`: the counter shows the frames sent again if none was abandoned.
-/

namespace Sdci
set_option autoImplicit false

/-- A failed frame is kept and not on the line. -/
def Device.awaitsResend (d : Device) : Bool := !d.link.isTransferring && d.inFlight.isSome

namespace Event

def resends (before : Trace) (e : Event) : Bool :=
  e.taken?.any fun frame => before.transfers.contains ⟨before.finished, frame⟩

def abandons (limit : Nat) (before : Trace) : Event → Bool
  | linkEvent source event =>
    event.ends && !source.isTransferring &&
      decide (0 < before.failures ∧ before.failures ≤ limit)
  | _ => false

theorem stepwise_resends : Stepwise resends := by
  intro e m inert
  rw [resends, inert.untaken]
  rfl

theorem stepwise_abandons (limit : Nat) : Stepwise (abandons limit) := by
  intro e m inert
  cases e
  case linkEvent source event =>
    have goesOn : event.ends = false := inert.goesOn
    rw [abandons, goesOn]
    rfl
  all_goals rfl

end Event

open Trace Event

namespace Device

/-! ## One move -/

variable {c : Config} {d : Device} {t : Trace}

/-- A frame that is not on the line is kept if an attempt has failed. -/
theorem Run.awaitsResend_eq (run : Run c d t) :
    d.awaitsResend = (!d.link.isTransferring && decide (0 < t.failures)) := by
  have engages := run.booked.engages
  have failures := run.counted.failures
  unfold awaitsResend
  cases link : d.link <;> rw [link] at engages
  case active mode =>
    have kept : d.inFlight.isSome = true ↔ 0 < t.failures := by
      rw [← failures]
      exact engages.trans UInt8.lt_iff_toNat_lt
    exact congrArg (_ && ·) (Bool.eq_iff_iff.2 (kept.trans decide_eq_true_iff.symm))
  case transferring => rfl
  all_goals
    rw [engages.1, ← failures, engages.2]
    rfl

/-- What ends an exchange drops the frame that waits. -/
theorem Run.abandons_eq (run : Run c d t) {m : Trace} {event : Link.Event}
    (ends : event.ends = true) (same : m.failures = t.failures) :
    abandons c.maxRetries.toNat m (.linkEvent d.link event) = d.awaitsResend := by
  have most := run.failures_le
  rw [run.config_eq] at most
  rw [abandons, ends, same, run.awaitsResend_eq]
  simp [most]

/-- A frame that is kept for another attempt has been on the line in the present exchange. -/
theorem Run.taken_of_kept (run : Run c d t) {mode : Mode} {out : InFlight}
    (link : d.link = .active mode) (kept : d.inFlight = some out) :
    ⟨t.finished, out.frame.encode⟩ ∈ t.transfers := by
  have engages := run.booked.engages
  have attempts := run.counted.attempts
  rw [link, kept] at engages
  rw [link, ← run.counted.failures] at attempts
  have failed : 0 < d.retries.count.toNat := UInt8.lt_iff_toNat_lt.1 (engages.1 rfl)
  have tried : 0 < t.transfers.countP (·.exchange == t.finished) := by
    change 0 < t.attempts
    omega
  obtain ⟨x, mem, present⟩ := List.countP_pos_iff.1 tried
  have exchange := beq_iff_eq.1 present
  rw [← exchange, ← run.tracks.current out kept x mem exchange]
  exact mem

/-- The transceiver has had the frame before just if it was kept. -/
theorem Run.resends_eq (run : Run c d t) {mode : Mode} {out : InFlight}
    (link : d.link = .active mode) (chosen : d.choose = .again out ∨ d.choose = .fresh out) :
    resends t (.transferred out.frame.encode true) = d.inFlight.isSome := by
  have taken : resends t (.transferred out.frame.encode true) = true ↔
      ⟨t.finished, out.frame.encode⟩ ∈ t.transfers := List.contains_iff_mem
  rcases chosen with again | fresh
  · have kept := choose_again again
    rw [kept, taken.2 (run.taken_of_kept link kept)]
    rfl
  · have none := (choose_fresh fresh).1
    have new : ⟨t.finished, out.frame.encode⟩ ∉ t.transfers := fun mem =>
      Nat.lt_irrefl _ (run.tracks.idle none _ mem)
    rw [none, Bool.eq_false_iff.2 (mt taken.1 new)]
    rfl

theorem awaitsResend_transferring {d : Device} {mode : Mode} (link : d.link = .transferring mode) :
    d.awaitsResend = false := by
  rw [awaitsResend, link]
  rfl

/-- Each retry that was granted has been made or abandoned, unless its frame still waits. -/
def Redeems (limit : Nat) (d : Device) (t : Trace) : Prop :=
  t.occurrences (grants limit) =
    t.occurrences resends + t.occurrences (abandons limit) + d.awaitsResend.toNat

theorem Course.redeems {u : Device} {es : Trace} (course : d.Course t es u) (run : Run c d t)
    (before : d.Redeems c.maxRetries.toNat t) : u.Redeems c.maxRetries.toNat (es ++ t) := by
  have granted := stepwise_grants c.maxRetries.toNat
  have resent := stepwise_resends
  have abandoned := stepwise_abandons c.maxRetries.toNat
  have config := run.config_eq
  unfold Redeems at before ⊢
  cases course with
  | apart aside tally completed frame link =>
    rw [aside.occurrences granted, aside.occurrences resent, aside.occurrences abandoned,
      awaitsResend, frame, link]
    exact before
  | switch idle aside =>
    rw [granted.switch aside, resent.switch aside, abandoned.switch aside,
      run.abandons_eq rfl aside.failures]
    change _ + 0 = _ + 0 + _ + 0
    omega
  | launch link chosen =>
    rename_i mode out
    have had := run.resends_eq link chosen
    have waits : d.awaitsResend = d.inFlight.isSome := by
      rw [awaitsResend, link]
      rfl
    rw [waits, ← had] at before
    change t.occurrences _ + 0 + 0 =
      t.occurrences _ + (resends t (.transferred out.frame.encode true)).toNat + 0 +
        (t.occurrences _ + 0 + 0) + 0
    omega
  | answer link reply aside tally completed dropped active =>
    rw [granted.answer aside, resent.answer aside, abandoned.answer aside, link, awaitsResend,
      dropped, Option.isSome_none, Bool.and_false]
    rw [awaitsResend_transferring link] at before
    exact before
  | retry link mishap left =>
    rename_i p mode cause e
    have engages := run.booked.engages
    rw [link] at engages
    have waits : (d.retried mode cause).awaitsResend = true := engages
    rw [config] at left
    rw [granted.retry mishap, resent.retry mishap, abandoned.retry mishap, mishap.grants_eq,
      decide_eq_true left, waits]
    rw [awaitsResend_transferring link] at before
    exact congrArg (· + 1) before
  | exhaust link mishap spent aside =>
    rw [config] at spent
    have none : ¬t.failures < c.maxRetries.toNat := by omega
    have late : decide (0 < c.maxRetries.toNat + 1 ∧
        c.maxRetries.toNat + 1 ≤ c.maxRetries.toNat) = false := decide_eq_false (by omega)
    rw [granted.exhaust mishap aside, resent.exhaust mishap aside, abandoned.exhaust mishap aside,
      mishap.grants_eq, decide_eq_false none, abandons, abandons, mishap.failures, spent, late,
      Bool.and_false]
    rw [awaitsResend_transferring link] at before
    exact before
  | fault fatal aside =>
    rw [granted.fault fatal aside, resent.fault fatal aside, abandoned.fault fatal aside,
      run.abandons_eq rfl (fatal.inert.failures t)]
    change _ + 0 = _ + 0 + _ + 0
    omega

theorem Run.redeems (h : Run c d t) : d.Redeems c.maxRetries.toNat t := by
  induction h with
  | start => rfl
  | move before last ih => exact (before.course last).redeems before ih

end Device

namespace Session

variable {σ : Type} [Transceiver σ] [Application σ] {s : Session σ}

/-- In every run, as long as it is not full, the retry counter shows the frames that were sent
again, those that were dropped while they waited for it, and the one that still waits, if any. So
while none waits it shows the frames sent again alone just if none was dropped. -/
theorem Reach.retry_counter_iff (h : Reach s) (below : s.device.tally.retries ≠ 0xFFFFFFFF) :
    let retries := s.device.tally.retries.toNat
    let resent := s.env.trace.occurrences resends
    let abandoned := s.env.trace.occurrences (abandons s.device.config.maxRetries.toNat)
    retries = resent + abandoned + s.device.awaitsResend.toNat ∧
      (s.device.awaitsResend = false → (retries = resent ↔ abandoned = 0)) := by
  intro retries resent abandoned
  obtain ⟨c, -, run⟩ := h.run
  have limit : s.device.config.maxRetries.toNat = c.maxRetries.toNat := by rw [run.config_eq]
  have sent := stepwise_resends.bare
    (fun e m => by rw [resends, transfers_bare, finished_bare, resends]) s.env.trace
  have dropped := (stepwise_abandons c.maxRetries.toNat).bare
    (fun e m => by unfold abandons; rw [failures_bare]) s.env.trace
  have balance : Device.Redeems .. := run.redeems
  rw [Device.Redeems, sent, dropped, ← limit] at balance
  have counted := toNat_of_count32 run.tallied.retries below
  rw [← limit, balance] at counted
  refine ⟨counted, fun none => ?_⟩
  have whole : retries = resent + abandoned + 0 := by
    rw [none] at counted
    exact counted
  omega

/-- The first frame was not answered in time and is on the line again. -/
theorem retry_counter_resent :
    Reach Bench.resent ∧ Bench.resent.device.tally.retries ≠ 0xFFFFFFFF ∧
      Bench.resent.device.awaitsResend = false ∧
      Bench.resent.device.tally.retries.toNat = 1 ∧
      Bench.resent.env.trace.occurrences resends = 1 := by
  have reach := Bench.reach_resent
  have below : Bench.resent.device.tally.retries ≠ 0xFFFFFFFF := by decide +kernel
  have none : Bench.resent.device.awaitsResend = false := by decide +kernel
  have kept : Bench.resent.env.trace.occurrences
      (abandons Bench.resent.device.config.maxRetries.toNat) = 0 := by decide +kernel
  have sent : Bench.resent.env.trace.occurrences resends = 1 := by decide +kernel
  obtain ⟨-, iff⟩ := reach.retry_counter_iff below
  exact ⟨reach, below, none, ((iff none).2 kept).trans sent, sent⟩

end Session

/-! ## A retry that is not made -/

namespace Bench

open Session

/-- A device whose first frame fails just as another mode is asked for. -/
def diverted : Session Bench :=
  let faulty := fresh.mapHost fun b => { b with wire := { b.wire with failTransfers := 1 } }
  ((((faulty.setMode .com1).2.tick 1000).tick 2000).setMode .com2).2.tick 3000

theorem reach_diverted : Reach diverted :=
  (((((reach_fresh.step (.mapHost ..)).submit ⟨.setMode, .com1⟩ nofun).tick 1000).tick 2000).submit
    ⟨.setMode, .com2⟩ nofun).tick 3000

/-- A retry is counted, but the frame is dropped and never sent again. -/
theorem retry_counted_unsent :
    Reach diverted ∧ diverted.device.awaitsResend = false ∧
      diverted.device.tally.retries = 1 ∧ diverted.env.trace.occurrences resends = 0 :=
  ⟨reach_diverted, by decide +kernel, by decide +kernel, by decide +kernel⟩

end Bench

end Sdci
