import Sdci.Proofs.Run.History
import Sdci.Proofs.Supervision

/-! # Deadlines

A tick serves every timer that is due before it begins anything new, and what it begins takes time.
So no deadline is ever behind the time of the last tick. Each deadline is the time of the event that
the timer measures from, plus the time that the configuration allows.

* `Timers.due?_eq_none_iff`: when no timer is due.
* `Device.Ahead`: every deadline lies ahead of the last tick.
* `Device.Timed`: since when each timer runs, and for how long.
* `Session.Reach.deadlines_ahead`: both together after a tick.
-/

namespace Sdci
set_option autoImplicit false

/-! ## Timers that are not due -/

namespace Timers

theorem get_start (t : Timers) (k : Timer) (duration : UInt32) (now : Nat) (j : Timer) :
    (t.start k duration now).get j = if j = k then some ⟨now, duration⟩ else t.get j := by
  by_cases h : j = k
  · subst h
    simp [start]
  · simp [start, h]

theorem get_stop (t : Timers) (k j : Timer) :
    (t.stop k).get j = if j = k then none else t.get j := by
  by_cases h : j = k
  · subst h
    simp [stop]
  · simp [stop, h]

theorem get_of_get_stop {t : Timers} {k j : Timer} {r : Running}
    (h : (t.stop k).get j = some r) : t.get j = some r := by
  rw [get_stop] at h
  split at h
  · cases h
  · exact h

theorem mem_pending {t : Timers} {k : Timer} {deadline : Nat} :
    (k, deadline) ∈ t.pending Timer.all ↔ ∃ r, t.get k = some r ∧ r.deadline = deadline := by
  unfold pending deadline?
  constructor
  · intro mem
    obtain ⟨j, -, hj⟩ := List.mem_filterMap.1 mem
    obtain ⟨_, found, same⟩ := Option.map_eq_some_iff.1 hj
    cases same
    exact Option.map_eq_some_iff.1 found
  · rintro ⟨r, get, rfl⟩
    exact List.mem_filterMap.2 ⟨k, Timer.mem_all k, by simp [get]⟩

theorem earliest_eq_none_iff {l : List (Timer × Nat)} : earliest l = none ↔ l = [] := by
  cases l with
  | nil => exact ⟨fun _ => rfl, fun _ => rfl⟩
  | cons e rest =>
    refine ⟨fun h => ?_, nofun⟩
    simp only [earliest] at h
    split at h
    · split at h <;> cases h
    · cases h

theorem due?_eq_none_iff {t : Timers} {now : Nat} :
    t.due? now = none ↔ ∀ k r, t.get k = some r → now < r.deadline := by
  unfold due?
  rw [Option.map_eq_none_iff, earliest_eq_none_iff, List.filter_eq_nil_iff]
  constructor
  · intro h k r get
    have late := h (k, r.deadline) (mem_pending.2 ⟨r, get, rfl⟩)
    simpa using late
  · rintro h ⟨k, deadline⟩ mem
    obtain ⟨r, get, rfl⟩ := mem_pending.1 mem
    have ahead := h k r get
    simpa using ahead

theorem deadline_of_next {t : Timers} {deadline : Nat} (h : t.nextDeadline = some deadline) :
    ∃ k r, t.get k = some r ∧ r.deadline = deadline := by
  obtain ⟨⟨k, _⟩, found, rfl⟩ := Option.map_eq_some_iff.1 h
  exact ⟨k, mem_pending.1 (earliest_mem found)⟩

end Timers

/-! ## What the timers measure from -/

namespace Event

/-- What a timer measures from: an accepted mode, an accepted frame, and for the time between
exchanges the confirmation of the link and every valid exchange. -/
def starts? : Event → Option Timer
  | modeSet _ true => some .modeSwitch
  | transferred _ true => some .transfer
  | linkEvent _ (.modeConfirmed _) => some .maxCycle
  | linkEvent _ .transferSucceeded => some .maxCycle
  | _ => none

def starts (k : Timer) (e : Event) : Bool := e.starts? == some k

theorem starts_eq_false {e : Event} (h : e.starts? = none) (k : Timer) : starts k e = false := by
  rw [starts, h]
  rfl

theorem starts_of_isRemark {e : Event} (h : e.isRemark = true) (k : Timer) :
    starts k e = false := by
  cases e <;> first | rfl | cases h

end Event

theorem Trace.Upcalls.starts {es : Trace} (h : es.Upcalls) :
    ∀ e ∈ es, e.starts? = none := by
  intro e mem
  have upcall := h e mem
  cases e <;> first | rfl | cases upcall

theorem Trace.since_starts {es : Trace} (h : ∀ e ∈ es, e.starts? = none) (k : Timer) (t : Trace) :
    Trace.since (Event.starts k) (es ++ t) = Trace.since (Event.starts k) t :=
  since_append (fun e mem => Event.starts_eq_false (h e mem) k) t

namespace Config

def duration (c : Config) : Timer → UInt32
  | .modeSwitch => c.modeSwitchTimeout
  | .transfer => c.transferTimeout
  | .maxCycle => c.maxCycleTime

theorem timeouts_pos {c : Config} (h : c.check = .ok ()) :
    0 < c.modeSwitchTimeout.toNat ∧ 0 < c.transferTimeout.toNat := by
  unfold check at h
  by_cases zero : c.modeSwitchTimeout = 0 ∨ c.transferTimeout = 0
  · rw [if_pos zero] at h
    cases h
  · obtain ⟨switch, transfer⟩ := not_or.1 zero
    have pos {n : UInt32} (h : n ≠ 0) : 0 < n.toNat :=
      Nat.pos_of_ne_zero fun e => h (UInt32.toNat_inj.1 e)
    exact ⟨pos switch, pos transfer⟩

end Config

namespace Device

/-! ## Deadlines ahead of the last tick -/

def Ahead (d : Device) : Prop :=
  ∀ k r, d.line.timers.get k = some r → d.lastTick < r.deadline

theorem Ahead.starts {d : Device} {t : Timers} {k : Timer} {duration : UInt32}
    (h : ∀ j r, t.get j = some r → d.lastTick < r.deadline) (pos : 0 < duration.toNat) :
    ∀ j r, (t.start k duration d.lastTick).get j = some r → d.lastTick < r.deadline := by
  intro j r get
  rw [Timers.get_start] at get
  split at get
  · cases get
    exact Nat.lt_add_of_pos_right pos
  · exact h j r get

/-- The dispatch work keeps all deadlines ahead, since what it begins takes time. -/
theorem Move.ahead {d u : Device} {es : Trace} (h : Move .work d es u)
    (check : d.config.check = .ok ()) (before : d.Ahead) : u.Ahead := by
  obtain ⟨switch, transfer⟩ := Config.timeouts_pos check
  cases h with
  | switch =>
    refine Ahead.starts (fun j r none => ?_) switch
    cases j <;> cases none
  | launch => exact Ahead.starts before transfer
  | exhaust link mishap => cases mishap
  | retry link mishap => cases mishap
  | fault fatal => cases fatal
  | _ => exact before

theorem Moves.ahead {d u : Device} {es : Trace} (h : Moves .work d es u)
    (check : d.config.check = .ok ()) (before : d.Ahead) : u.Ahead ∧ u.config = d.config := by
  induction h with
  | refl => exact ⟨before, rfl⟩
  | tail _ last ih =>
    obtain ⟨ahead, config⟩ := ih
    exact ⟨last.ahead (by rw [config]; exact check) ahead, last.config_eq.trans config⟩

/-! ## Since when a timer runs -/

def Timed (d : Device) (t : Trace) : Prop :=
  ∀ k r, d.line.timers.get k = some r →
    r.duration = d.config.duration k ∧ t.since (Event.starts k) = some r.started

theorem Supervised.running {d : Device} (h : d.Supervised) {k : Timer} {r : Running}
    (get : d.line.timers.get k = some r) :
    k.watches d.link = true ∧ (k = .maxCycle → d.config.maxCycleTime ≠ 0) := by
  have watched : d.watches k = true := by
    rw [← h k, Timers.isRunning, get]
    rfl
  obtain ⟨watch, wanted⟩ := Bool.and_eq_true_iff.1 watched
  refine ⟨watch, ?_⟩
  rintro rfl
  simpa using wanted

theorem get_supervise (d : Device) (t : Timers) (k : Timer) :
    (d.supervise t).get k =
      if k = .maxCycle ∧ d.config.maxCycleTime ≠ 0 then
        some ⟨d.lastTick, d.config.maxCycleTime⟩
      else t.get k := by
  unfold supervise
  by_cases off : d.config.maxCycleTime = 0
  · simp [off]
  · simp [off, Timers.get_start]

namespace Timed

variable {d u : Device} {es t : Trace}

/-- Timers that run on measure from where they did. -/
theorem keeps (h : d.Timed t) (config : u.config = d.config)
    (timers : ∀ k r, u.line.timers.get k = some r → d.line.timers.get k = some r)
    (quiet : ∀ e ∈ es, e.starts? = none) : u.Timed (es ++ t) := by
  intro k r get
  rw [config, Trace.since_starts quiet]
  exact h k r (timers k r get)

theorem stopped (timers : u.line.timers = {}) : u.Timed t := by
  intro k r get
  rw [timers] at get
  cases k <;> cases get

/-- After the proof of a link no timer runs but the one that measures from it. -/
theorem proved {e : Event} {i : Indication} (told : d.Told t) (upcalls : es.Upcalls)
    (proves : e.starts? = some .maxCycle) (timers : ∀ k r, u.line.timers.get k = some r →
      k = .maxCycle ∧ r = ⟨d.lastTick, u.config.maxCycleTime⟩) :
    u.Timed (es ++ ([e, .polled (some i)] ++ t)) := by
  intro k r get
  obtain ⟨rfl, rfl⟩ := timers k r get
  have starts : Event.starts .maxCycle e = true := by rw [Event.starts, proves]; rfl
  refine ⟨rfl, ?_⟩
  rw [Trace.since_starts upcalls.starts, List.cons_append, Trace.since, if_pos starts]
  exact congrArg some told.clock

end Timed

/-- A timer that is left when those of a link are renewed is the supervision of cycles. -/
theorem Supervised.renewed {d : Device} (h : d.Supervised) {j k : Timer} {r : Running}
    (other : ∀ i, i.watches d.link = true → i = j ∨ i = .maxCycle)
    (get : (d.supervise (d.line.timers.stop j)).get k = some r) :
    k = .maxCycle ∧ r = ⟨d.lastTick, d.config.maxCycleTime⟩ := by
  rw [get_supervise] at get
  split at get
  · rename_i cycle
    cases get
    exact ⟨cycle.1, rfl⟩
  · rename_i off
    rw [Timers.get_stop] at get
    split at get
    · cases get
    · rename_i away
      obtain ⟨watch, wanted⟩ := h.running get
      have cycle := (other k watch).resolve_left away
      exact absurd ⟨cycle, wanted cycle⟩ off

theorem Move.timed {p : Phase} {d u : Device} {es t : Trace} (h : Move p d es u)
    (told : d.Told t) (supervised : d.Supervised) (before : d.Timed t) : u.Timed (es ++ t) := by
  cases h with
  | establish switching requested lost done =>
    rename_i mode es₁ es₂
    rw [List.append_assoc]
    refine .proved told (done.upcalls.append lost.upcalls) rfl fun k r get => ?_
    have only : ∀ i, Timer.watches i d.link = true → i = .modeSwitch := by
      intro i watch
      rw [switching] at watch
      cases i <;> first | rfl | cases watch
    unfold established at get
    cases active : mode.active with
    | true =>
      rw [active] at get
      exact supervised.renewed (fun i watch => .inl (only i watch)) get
    | false =>
      rw [active] at get
      change (d.line.timers.stop .modeSwitch).get k = some r at get
      rw [Timers.get_stop] at get
      split at get
      · cases get
      · rename_i away
        exact absurd (only k (supervised.running get).1) away
  | exchange transferring decode fits settles delivers signals serves =>
    rename_i v mode frame master i₁ i₂ slots es₁ es₂ es₃ es₄
    obtain ⟨upcalls, called, whole⟩ := upcalls_exchange settles delivers signals serves
      [.linkEvent d.link .transferSucceeded, .polled (some (.transferComplete frame))] t
    rw [whole, settles.eq]
    refine .proved told called rfl fun k r get => supervised.renewed (fun i watch => ?_) get
    rw [transferring] at watch
    cases i <;> first | exact .inl rfl | exact .inr rfl | cases watch
  | retry transferring mishap left =>
    refine before.keeps rfl (fun k r get => ?_) ?_
    · exact Timers.get_of_get_stop get
    · cases mishap <;> simp [Event.starts?]
  | exhaust => exact .stopped rfl
  | fault => exact .stopped rfl
  | stale id due idle =>
    exact before.keeps rfl (fun k r get => Timers.get_of_get_stop get) (by simp [Event.starts?])
  | switch quiet idle pending failed =>
    rename_i ticket es
    intro k r get
    change (Timers.start {} .modeSwitch d.config.modeSwitchTimeout d.lastTick).get k = _ at get
    rw [Timers.get_start] at get
    split at get
    · rename_i switch
      cases get
      subst switch
      have clock := (Told.after failed.upcalls told).clock
      exact ⟨rfl, congrArg some clock⟩
    · cases k <;> cases get
  | refuseMode acknowledged quiet idle pending failed =>
    refine before.keeps rfl (fun _ _ get => get) ?_
    simpa [Event.starts?] using failed.upcalls.starts
  | launch unhurried active chosen =>
    rename_i mode out
    intro k r get
    change (d.line.timers.start .transfer d.config.transferTimeout d.lastTick).get k = _ at get
    rw [Timers.get_start] at get
    split at get
    · rename_i transfer
      cases get
      subst transfer
      exact ⟨rfl, congrArg some told.clock⟩
    · rename_i other
      obtain ⟨duration, since⟩ := before k r get
      have away : Event.starts k (.transferred out.frame.encode true) = false := by
        simpa [Event.starts, Event.starts?] using Ne.symm other
      refine ⟨duration, ?_⟩
      show (if Event.starts k (.transferred out.frame.encode true) then _ else _) = _
      rw [if_neg (by simp [away])]
      exact since
  | _ => exact before.keeps rfl (fun _ _ get => get) (by simp [Event.starts?])

theorem Run.timed {c : Config} {d : Device} {t : Trace} (h : Run c d t) : d.Timed t := by
  induction h with
  | start => exact .stopped rfl
  | move before last ih => exact last.timed before.told before.supervised ih

end Device

namespace Session

open Device

variable {σ : Type} [Transceiver σ] [Application σ]

theorem lastTick_tick (s : Session σ) (now : Nat) : (s.tick now).device.lastTick = now := by
  obtain ⟨-, polled, expired, worked⟩ := s.performs_tick now
  rw [worked.lastTick nofun, expired.lastTick nofun, polled.performs.lastTick nofun]
  rfl

/-- The expiry of timers ends when none is due, and the dispatch work keeps it so. -/
theorem ahead_tick {s : Session σ} (h : Reach s) (now : Nat) : (s.tick now).device.Ahead := by
  obtain ⟨c, check, run⟩ := h.run
  obtain ⟨entered, polled, expired, es, -, work⟩ := s.performs_tick now
  have quiet := ((s.enterTick now).poll now).due_expireTimers now
  have time : (((s.enterTick now).poll now).expireTimers now).device.lastTick = now := by
    rw [expired.lastTick nofun, polled.performs.lastTick nofun]
    rfl
  have config := (expired.run (polled.performs.run (entered.performs.run run))).config_eq
  refine (work.ahead (by rw [config]; exact check) ?_).1
  intro k r get
  rw [time]
  exact Timers.due?_eq_none_iff.1 quiet k r get

/-- After a tick no deadline has passed. While a mode is switched, a frame is on the line, or a link
is supervised, the time that is left is counted from the event it began with. -/
theorem Reach.deadlines_ahead {s : Session σ} (h : Reach s) (now : Nat) :
    let t := s.tick now
    (∀ deadline, t.nextDeadline = some deadline → now < deadline) ∧
      (∀ target, t.link = .switching target →
        ∃ begun, t.env.trace.since (Event.starts .modeSwitch) = some begun ∧
          now < begun + t.device.config.modeSwitchTimeout.toNat) ∧
      (∀ mode, t.link = .transferring mode →
        ∃ sent, t.env.trace.since (Event.starts .transfer) = some sent ∧
          now < sent + t.device.config.transferTimeout.toNat) ∧
      (∀ mode, t.link = .active mode ∨ t.link = .transferring mode →
        0 < t.device.config.maxCycleTime →
        ∃ proved, t.env.trace.since (Event.starts .maxCycle) = some proved ∧
          now < proved + t.device.config.maxCycleTime.toNat) := by
  intro t
  have ahead := ahead_tick h now
  have clock : t.device.lastTick = now := s.lastTick_tick now
  obtain ⟨c, -, run⟩ := (h.tick now).run
  -- A timer that the link asks for runs since the event it measures from.
  have within : ∀ k, t.device.watches k = true →
      ∃ begun, t.env.trace.since (Event.starts k) = some begun ∧
        now < begun + (t.device.config.duration k).toNat := by
    intro k watched
    rw [← run.supervised k] at watched
    obtain ⟨r, get⟩ := Option.isSome_iff_exists.1 watched
    obtain ⟨duration, since⟩ := run.timed k r get
    have left := ahead k r get
    rw [Trace.since_bare fun e remark => Event.starts_of_isRemark remark k] at since
    rw [clock, Running.deadline, duration] at left
    exact ⟨r.started, since, left⟩
  refine ⟨fun deadline next => ?_, fun target link => ?_, fun mode link => ?_,
    fun mode link wanted => ?_⟩
  · obtain ⟨k, r, get, rfl⟩ := Timers.deadline_of_next next
    rw [← clock]
    exact ahead k r get
  · refine within .modeSwitch ?_
    rw [watches, show t.device.link = _ from link]
    rfl
  · refine within .transfer ?_
    rw [watches, show t.device.link = _ from link]
    rfl
  · refine within .maxCycle ?_
    have on := UInt32.pos_iff_ne_zero.1 wanted
    rcases link with active | transferring
    · rw [watches, show t.device.link = _ from active]
      simpa [Timer.watches] using on
    · rw [watches, show t.device.link = _ from transferring]
      simpa [Timer.watches] using on

theorem deadlines_ahead_exchanging :
    Reach Bench.exchanging ∧ (Bench.exchanging.tick 4000).link = .transferring .com1 ∧
      ∃ sent, (Bench.exchanging.tick 4000).env.trace.since (Event.starts .transfer) = some sent ∧
        4000 < sent + 10000 := by
  have reach := Bench.reach_exchanging
  have link : (Bench.exchanging.tick 4000).link = .transferring .com1 := by decide +kernel
  have timeout : (Bench.exchanging.tick 4000).device.config.transferTimeout.toNat = 10000 := by
    decide +kernel
  obtain ⟨-, -, transfer, -⟩ := reach.deadlines_ahead 4000
  have left := transfer .com1 link
  rw [timeout] at left
  exact ⟨reach, link, left⟩

end Session

end Sdci
