import Sdci.Proofs.Counters

/-! # Entries into the fault state

A device counts each time it stops communicating. That is an entry into the fault state unless
communication has stopped before, and then nothing but a report of a hardware fault stops it again.

* `Event.strikes`: a hardware fault is reported on a link that has stopped.
* `Trace.Stops`: each stop is an entry into the fault state or such a report.
* `Session.Reach.fault_counter_iff`: so the counter shows the entries if there is no such report.
-/

namespace Sdci
set_option autoImplicit false

def Event.strikes (before : Trace) : Event → Bool
  | polled (some .hardwareFault) => decide (before.link = .fault)
  | _ => false

open Event

theorem Event.strikes_eq_false {e : Event} (apart : e.steers = false) (t : Trace) :
    strikes t e = false := by
  unfold strikes
  split
  · cases apart
  · rfl

namespace Trace

def Stops (t : Trace) : Prop :=
  (t.occurrences fun _ => isFatal) =
    (t.occurrences fun _ => entersFault) + t.occurrences strikes

namespace Stops

variable {e : Event} {es t : Trace}

theorem cons (h : t.Stops) (alive : e.isFatal = false) (stays : e.entersFault = false)
    (unstruck : strikes t e = false) : Stops (e :: t) := by
  rw [Stops, occurrences, occurrences, occurrences, alive, stays, unstruck]
  exact h

theorem aside (h : t.Stops) (aside : es.Aside t) : Stops (es ++ t) := by
  induction es with
  | nil => exact h
  | cons e es ih =>
    obtain ⟨⟨apart, -⟩, rest⟩ := aside_cons.1 aside
    have inert := inert_of_steers apart
    exact (ih rest).cons inert.alive inert.stays (strikes_eq_false apart _)

/-- The link stops because of the event `e`, which is a stroke if it has stopped before. -/
theorem stopped (h : t.Stops) (inert : e.Inert) {source : Link}
    (stroke : strikes t e = decide (source = .fault)) :
    Stops (.linkEvent source .fatalError :: e :: t) := by
  unfold Stops at h ⊢
  simp only [occurrences, inert.alive, inert.stays, stroke]
  by_cases before : source = .fault
  · simp [isFatal, strikes, before]
    omega
  · simp [isFatal, strikes, before, Link.next_fatalError]
    omega

end Stops

end Trace

open Trace

namespace Device

/-- Of all that stops communication only a hardware fault can do so once more. -/
theorem Fatal.strikes_eq {d : Device} {p : Phase} {cause : Failure} {e : Event} {t : Trace}
    (h : Fatal d p cause e) (told : d.Told t) : strikes t e = decide (d.link = .fault) := by
  cases h with
  | hardware => rw [strikes, told.link]
  | wrongMode link => simp [strikes, link]
  | malformed link => simp [strikes, link]
  | oversized link => simp [strikes, link]
  | unsupervised due watch =>
    have alive : d.link ≠ .fault := by
      intro stopped
      rw [stopped] at watch
      simp [Timer.watches] at watch
    simp [strikes, alive]

theorem Mishap.unstruck {d : Device} {p : Phase} {cause : Failure} {e : Event}
    (h : Mishap d p cause e) (t : Trace) : strikes t e = false := by
  cases h <;> rfl

theorem Course.stops {d u : Device} {es t : Trace} (course : d.Course t es u) (told : d.Told t)
    (before : t.Stops) : Stops (es ++ t) := by
  cases course with
  | apart aside => exact before.aside aside
  | switch idle aside => exact (before.aside aside).cons rfl (alive_of_idle idle _) rfl
  | launch link =>
    rw [link]
    exact (before.cons rfl rfl rfl).cons rfl rfl rfl
  | answer link reply aside =>
    rw [link, List.cons_append, List.append_assoc]
    exact (((before.cons rfl rfl rfl).cons rfl rfl rfl).aside (aside _)).cons rfl rfl rfl
  | retry link mishap left =>
    rename_i p mode cause e
    have inert := mishap.inert
    have reported : Stops (e :: t) := before.cons inert.alive inert.stays (mishap.unstruck t)
    rw [link]
    exact (reported.cons rfl rfl rfl).cons rfl rfl rfl
  | exhaust link mishap spent aside =>
    rename_i p mode cause e es
    have inert := mishap.inert
    have reported : Stops (e :: t) := before.cons inert.alive inert.stays (mishap.unstruck t)
    have failed : Stops (.linkEvent (.transferring mode) .recoverableError :: e :: t) :=
      reported.cons rfl rfl rfl
    rw [link, List.append_assoc]
    exact (failed.stopped inert_cycled rfl).aside (aside _)
  | fault fatal aside =>
    rw [List.append_assoc]
    exact (before.stopped fatal.inert (fatal.strikes_eq told)).aside (aside _)

theorem Run.stops {c : Config} {d : Device} {t : Trace} (h : Run c d t) : t.Stops := by
  induction h with
  | start => exact rfl
  | move before last ih => exact (before.course last).stops before.told ih

end Device

namespace Session

variable {σ : Type} [Transceiver σ] [Application σ] {s : Session σ}

/-- In every run, as long as it is not full, the fault counter shows how often the link has left
another state for the fault state, and in addition how often a hardware fault was reported in the
fault state. So it shows the entries alone just if no hardware fault was reported there. -/
theorem Reach.fault_counter_iff (h : Reach s) (below : s.device.tally.faults ≠ 0xFFFFFFFF) :
    let faults := s.device.tally.faults.toNat
    let entries := s.env.trace.countP entersFault
    let strokes := s.env.trace.occurrences strikes
    faults = entries + strokes ∧ (faults = entries ↔ strokes = 0) := by
  intro faults entries strokes
  obtain ⟨c, -, run⟩ := h.run
  have stops := run.stops
  have struck : s.env.trace.bare.occurrences strikes = strokes := by
    refine occurrences_bare (fun e m remark => ?_) (fun e m => ?_) _
    · cases e <;> first | rfl | cases remark
    · unfold strikes
      rw [link_bare]
  have stepwise : Stepwise fun _ => entersFault := fun _ _ inert => inert.stays
  have entered : (s.env.trace.bare.occurrences fun _ => entersFault) = entries :=
    (stepwise.bare (fun _ _ => rfl) _).trans (occurrences_const ..)
  rw [Stops, struck, entered] at stops
  have counted : faults = _ := toNat_of_count32 run.tallied.faults below
  omega

/-- A hardware fault is reported to a device in the middle of an exchange. -/
theorem fault_counter_struck :
    let s := Bench.exchanging.mapHost fun b =>
      { b with wire := { b.wire with queue := [.hardwareFault] } }
    Reach (s.tick 4000) ∧ (s.tick 4000).env.trace.occurrences strikes = 0 ∧
      (s.tick 4000).device.tally.faults.toNat = (s.tick 4000).env.trace.countP entersFault := by
  intro s
  have reach : Reach (s.tick 4000) := (Bench.reach_exchanging.step (.mapHost ..)).tick 4000
  have below : (s.tick 4000).device.tally.faults ≠ 0xFFFFFFFF := by decide +kernel
  have unstruck : (s.tick 4000).env.trace.occurrences strikes = 0 := by decide +kernel
  obtain ⟨-, iff⟩ := reach.fault_counter_iff below
  exact ⟨reach, unstruck, iff.2 unstruck⟩

end Session

/-! ## A fault on a link that has stopped -/

namespace Bench

open Session

/-- A new device that has dealt with two reports of a hardware fault, one in each tick. -/
def strickenTwice : Session Bench :=
  let broken := fresh.mapHost fun b =>
    { b with wire := { b.wire with queue := [.hardwareFault, .hardwareFault] } }
  (broken.tick 1000).tick 2000

/-- The link has entered the fault state once, and two faults are counted. -/
theorem second_fault_counted :
    Reach strickenTwice ∧ strickenTwice.env.trace.countP entersFault = 1 ∧
      strickenTwice.device.tally.faults = 2 :=
  ⟨((reach_fresh.step (.mapHost ..)).tick 1000).tick 2000, by decide +kernel, by decide +kernel⟩

end Bench

end Sdci
