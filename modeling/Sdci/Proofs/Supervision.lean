import Sdci.Proofs.Run.Dispatch

/-! # The timers of a device

Which timers run depends on the state of the link and on the configuration alone. A timer that
expires therefore always has something to supervise, and none is ever found to be stale.

* `Timers.isRunning_start`, `Timers.isRunning_stop`: which timers run after a change.
* `Device.Supervised`: the timers that run are those that the link asks for.
* `Session.Reach.timers_follow_link`: so it is in every run.
-/

namespace Sdci
set_option autoImplicit false

/-! ## Running timers -/

namespace Timers

theorem isRunning_start (t : Timers) (k : Timer) (duration : UInt32) (now : Nat) (j : Timer) :
    (t.start k duration now).isRunning j = (j == k || t.isRunning j) := by
  by_cases h : j = k
  · subst h
    simp [isRunning, start]
  · simp [isRunning, start, h, beq_false_of_ne h]

theorem isRunning_stop (t : Timers) (k j : Timer) :
    (t.stop k).isRunning j = (j != k && t.isRunning j) := by
  by_cases h : j = k
  · subst h
    simp [isRunning, stop]
  · simp [isRunning, stop, h, bne_iff_ne.2 h]

end Timers

theorem Trace.Upcalls.not_noted {es : Trace} (h : es.Upcalls) (r : Record) : .noted r ∉ es := by
  intro mem
  cases h _ mem

namespace Device

/-! ## Supervision -/

/-- Whether a timer is to run. -/
def watches (d : Device) (k : Timer) : Bool :=
  k.watches d.link && (k != .maxCycle || d.config.maxCycleTime != 0)

def Supervised (d : Device) : Prop := ∀ k, d.line.timers.isRunning k = d.watches k

theorem isRunning_supervise (d : Device) (t : Timers) (k : Timer) :
    (d.supervise t).isRunning k =
      (k == .maxCycle && d.config.maxCycleTime != 0 || t.isRunning k) := by
  unfold supervise
  split
  · rename_i off
    simp [off]
  · rename_i on
    rw [Timers.isRunning_start]
    simp [bne_iff_ne.2 on]

/-- A timer that is due in a supervised device is one that its link asks for. -/
theorem Supervised.watches_of_due {d : Device} (h : d.Supervised) {timer : Timer}
    (due : d.line.timers.due? d.lastTick = some timer) : timer.watches d.link = true := by
  have running := Timers.isRunning_of_due due
  rw [h timer] at running
  exact (Bool.and_eq_true_iff.1 running).1

/-! ## One move -/

theorem supervised_faulted (d : Device) : d.faulted.Supervised := by
  intro k
  cases k <;> rfl

theorem supervised_switched (d : Device) (target : Mode) : (d.switched target).Supervised := by
  intro k
  cases k <;> rfl

theorem Supervised.failed {d : Device} (h : d.Supervised) {mode : Mode} (cause : Failure)
    (link : d.link = .transferring mode) : (d.failed mode cause).Supervised := by
  intro k
  have before := h k
  unfold watches at before
  rw [link] at before
  change (d.line.timers.stop .transfer).isRunning k = _
  rw [Timers.isRunning_stop, before]
  cases k <;> rfl

theorem Supervised.succeeded {d : Device} (h : d.Supervised) {mode : Mode} (output : Octets)
    (link : d.link = .transferring mode) : (d.succeeded mode output).Supervised := by
  intro k
  have before := h k
  unfold watches at before
  rw [link] at before
  change (d.supervise (d.line.timers.stop .transfer)).isRunning k =
    (k.watches (.active mode) && (k != .maxCycle || d.config.maxCycleTime != 0))
  rw [isRunning_supervise, Timers.isRunning_stop, before]
  cases k <;> simp [Timer.watches]

theorem Supervised.established {d : Device} (h : d.Supervised) {mode : Mode}
    (link : d.link = .switching mode) : (d.established mode).Supervised := by
  intro k
  have before := h k
  unfold watches at before
  rw [link] at before
  unfold watches Device.established
  cases mode.active with
  | true =>
    change (d.supervise (d.line.timers.stop .modeSwitch)).isRunning k =
      (k.watches (.active mode) && (k != .maxCycle || d.config.maxCycleTime != 0))
    rw [isRunning_supervise, Timers.isRunning_stop, before]
    cases k <;> simp [Timer.watches]
  | false =>
    change (d.line.timers.stop .modeSwitch).isRunning k =
      (k.watches .inactive && (k != .maxCycle || d.config.maxCycleTime != 0))
    rw [Timers.isRunning_stop, before]
    cases k <;> rfl

theorem Supervised.launched {d : Device} (h : d.Supervised) {mode : Mode} (out : InFlight)
    (link : d.link = .active mode) : (d.launched mode out).Supervised := by
  intro k
  have before := h k
  unfold watches at before
  rw [link] at before
  change (d.line.timers.start .transfer d.config.transferTimeout d.lastTick).isRunning k = _
  rw [Timers.isRunning_start, before]
  cases k <;> rfl

theorem Move.supervised {p : Phase} {d u : Device} {es : Trace} (h : Move p d es u)
    (before : d.Supervised) : u.Supervised := by
  cases h with
  | grant => exact before
  | refuse => exact before
  | clock => exact before
  | silence => exact before
  | ignore => exact before
  | establish link => exact before.established link
  | exchange link decode fits settles delivers signals serves =>
    rename_i v mode frame master i₁ i₂ slots es₁ es₂ es₃ es₄
    have succeeded := before.succeeded master.output link
    rw [settles.eq]
    exact succeeded
  | retry link mishap left =>
    rename_i mode cause e
    exact before.failed cause link
  | exhaust => exact supervised_faulted _
  | fault => exact supervised_faulted d
  | stale id due idle => exact absurd (before.watches_of_due due) (by simp [idle])
  | answerMode => exact before
  | switch => exact supervised_switched d _
  | refuseMode => exact before
  | serve => exact before
  | drop => exact before
  | launch unhurried link => exact before.launched _ link
  | busy => exact before

/-- The log remarks on nothing but stale timers. -/
theorem Move.stale_of_noted {p : Phase} {d u : Device} {es : Trace} (h : Move p d es u)
    {r : Record} (mem : .noted r ∈ es) :
    ∃ timer, d.line.timers.due? d.lastTick = some timer ∧ timer.watches d.link = false := by
  cases h with
  | stale id due idle => exact ⟨_, due, idle⟩
  | establish link requested lost done =>
    simp [lost.upcalls.not_noted, done.upcalls.not_noted] at mem
  | exchange link decode fits settles delivers signals serves =>
    simp [settles.upcalls.not_noted, delivers.upcalls.not_noted, signals.upcalls.not_noted,
      serves.upcalls.not_noted] at mem
  | retry link mishap => cases mishap <;> simp at mem
  | exhaust link mishap left failed =>
    cases mishap <;> simp [failed.upcalls.not_noted] at mem
  | fault fatal failed => cases fatal <;> simp [failed.upcalls.not_noted] at mem
  | switch quiet idle pending failed => simp [failed.upcalls.not_noted] at mem
  | refuseMode acknowledged quiet idle pending failed =>
    simp [failed.upcalls.not_noted] at mem
  | _ => simp at mem

/-! ## Whole runs -/

theorem Run.supervised {c : Config} {d : Device} {t : Trace} (h : Run c d t) : d.Supervised := by
  induction h with
  | start =>
    intro k
    cases k <;> rfl
  | move before last ih => exact last.supervised ih

theorem Run.not_noted {c : Config} {d : Device} {t : Trace} (h : Run c d t) (r : Record) :
    .noted r ∉ t := by
  induction h with
  | start => exact List.not_mem_nil
  | move before last ih =>
    intro mem
    rcases List.mem_append.1 mem with now | earlier
    · obtain ⟨timer, due, idle⟩ := last.stale_of_noted now
      exact absurd (before.supervised.watches_of_due due) (by simp [idle])
    · exact ih earlier

end Device

namespace Session

open Device

variable {σ : Type} [Transceiver σ] [Application σ]

/-- The timers that run are those that the state of the link asks for, and so no timer is ever found
to be stale. -/
theorem Reach.timers_follow_link {s : Session σ} (h : Reach s) :
    (s.device.line.timers.isRunning .modeSwitch ↔ ∃ target, s.device.link = .switching target) ∧
      (s.device.line.timers.isRunning .transfer ↔ ∃ mode, s.device.link = .transferring mode) ∧
      (s.device.line.timers.isRunning .maxCycle ↔
        ((∃ mode, s.device.link = .active mode) ∨ ∃ mode, s.device.link = .transferring mode) ∧
          0 < s.device.config.maxCycleTime) ∧
      ∀ id timer link, .noted ⟨id, .timerIgnored timer link⟩ ∉ s.env.trace := by
  obtain ⟨c, -, run⟩ := h.run
  have supervised := run.supervised
  refine ⟨?_, ?_, ?_, ?_⟩
  · rw [supervised .modeSwitch]
    cases link : s.device.link <;> simp [watches, Timer.watches, link]
  · rw [supervised .transfer]
    cases link : s.device.link <;> simp [watches, Timer.watches, link]
  · rw [supervised .maxCycle, UInt32.pos_iff_ne_zero]
    cases link : s.device.link <;> simp [watches, Timer.watches, link]
  · intro id timer link mem
    have bare : .noted ⟨id, .timerIgnored timer link⟩ ∈ s.env.trace.bare :=
      List.mem_filter.2 ⟨mem, rfl⟩
    exact run.not_noted _ bare

theorem timers_follow_link_exchanging :
    Reach Bench.exchanging ∧
      Bench.exchanging.device.line.timers.isRunning .transfer ∧
      Bench.exchanging.device.line.timers.isRunning .maxCycle := by
  have reach := Bench.reach_exchanging
  obtain ⟨-, transfer, cycle, -⟩ := reach.timers_follow_link
  have link : Bench.exchanging.device.link = .transferring .com1 := by decide +kernel
  refine ⟨reach, transfer.2 ⟨_, link⟩, cycle.2 ⟨.inr ⟨_, link⟩, ?_⟩⟩
  decide +kernel

end Session

end Sdci
