import Sdci.Proofs.Retry
import Sdci.Proofs.WireMode

/-! # Fault is complete

Communication stops in several places, in the middle of a tick and with part of its work done. Every
one of them leaves the same: all open requests failed with the cause, and nothing of the link.

* `Device.Breaks`: the causes, with the event that tells of each.
* `Device.Halts`: what a device that stops communicating does.
* `Device.Move.halts_or`: a move stops communication exactly if something breaks it.
* `Session.Fails`: the point in a tick at which communication stops.
* `Session.fault_complete`: how such a tick ends, and that no other tick stops communication.
-/

namespace Sdci
set_option autoImplicit false

namespace Event

def isFatal : Event → Bool
  | linkEvent _ .fatalError => true
  | _ => false

/-- Why an event stops communication, if it does. -/
def cause? : Event → Option Failure
  | polled (some .hardwareFault) => some .hardware
  | polled (some (.modeSwitched _)) => some .protocol
  | polled (some (.transferFailed fault)) => some fault.failure
  | polled (some (.transferComplete frame)) =>
    match MasterFrame.decode frame with
    | .ok _ => some .overflow
    | .error cause => some cause
  | expired _ => some .timeout
  | _ => none

end Event

namespace Trace

/-- How often communication has been stopped. -/
def faults (t : Trace) : Nat := t.countP Event.isFatal

@[simp] theorem faults_append (es t : Trace) : faults (es ++ t) = faults es + faults t :=
  List.countP_append

theorem Upcalls.faults {es : Trace} (h : es.Upcalls) : faults es = 0 :=
  List.countP_eq_zero.2 fun e mem => by
    have upcall := h e mem
    cases e <;> first | exact Bool.false_ne_true | cases upcall

end Trace

namespace Device

/-! ## Stopping communication -/

/-- What makes a device stop communicating, with the event that tells of it. -/
inductive Breaks (d : Device) (p : Phase) (cause : Failure) (e : Event) : Prop
  | fatal (fatal : Fatal d p cause e)
  | exhausted {mode : Mode} (link : d.link = .transferring mode) (mishap : Mishap d p cause e)
      (spent : d.retries.left = false)

/-- No communication and no open request; of the process data only their validity is lost. -/
structure Stopped (d u : Device) : Prop where
  link : u.link = .fault
  slots : u.slots = {}
  timers : u.line.timers = {}
  inFlight : u.inFlight = none
  count : u.retries.count = 0
  images : u.images = d.images.invalidate

/-- Communication stops, and every open request fails with the cause. -/
structure Halts (d : Device) (cause : Failure) (es : Trace) (u : Device) : Prop where
  once : es.faults = 1
  failed : es.confirmations = (d.slots.openKinds.map fun kind => (kind, .error cause)).reverse
  stopped : d.Stopped u

theorem Mishap.cause_eq {d : Device} {p : Phase} {cause : Failure} {e : Event}
    (h : Mishap d p cause e) : e.cause? = some cause := by
  cases h with
  | garbled decode minor => simp [Event.cause?, decode]
  | spoilt => rfl
  | unanswered => rfl

theorem Fatal.cause_eq {d : Device} {p : Phase} {cause : Failure} {e : Event}
    (h : Fatal d p cause e) : e.cause? = some cause := by
  cases h with
  | malformed link decode major => simp [Event.cause?, decode]
  | oversized link decode long => simp [Event.cause?, decode]
  | _ => rfl

theorem Breaks.cause_eq {d : Device} {p : Phase} {cause : Failure} {e : Event}
    (h : d.Breaks p cause e) : e.cause? = some cause := by
  cases h with
  | fatal fatal => exact fatal.cause_eq
  | exhausted link mishap spent => exact mishap.cause_eq

/-- Requests and the dispatch work break nothing. -/
theorem Breaks.phase {d : Device} {p : Phase} {cause : Failure} {e : Event}
    (h : d.Breaks p cause e) : p = .poll ∨ p = .expiry := by
  cases h with
  | fatal fatal => cases fatal <;> simp
  | exhausted link mishap spent => cases mishap <;> simp

theorem stopped_faulted {d u : Device} (images : u.images = d.images) : d.Stopped u.faulted := by
  refine ⟨rfl, rfl, rfl, rfl, rfl, ?_⟩
  rw [← images]
  rfl

/-- A recoverable failure is not a fatal one. -/
theorem Mishap.not_fatal {d : Device} {p : Phase} {cause other : Failure} {e : Event}
    (h : Mishap d p cause e) : ¬ Fatal d p other e := by
  intro fatal
  cases h with
  | garbled decode minor =>
    cases fatal with
    | malformed link decode' major => simp_all
    | oversized link decode' long => simp_all
  | spoilt => cases fatal
  | unanswered due =>
    cases fatal with
    | unsupervised due' watch other => exact other rfl

/-- An indication that breaks something is of use to the link. -/
theorem Breaks.ignores {d : Device} {p : Phase} {cause : Failure} {i : Indication}
    (h : d.Breaks p cause (.polled (some i))) : d.link.ignores i = false := by
  cases h with
  | fatal fatal =>
    cases fatal with
    | hardware => cases d.link <;> rfl
    | wrongMode link => rw [link]; rfl
    | malformed link => rw [link]; rfl
    | oversized link => rw [link]; rfl
  | exhausted link mishap => cases mishap <;> rw [link] <;> rfl

/-- A timer that breaks something supervises the link. -/
theorem Breaks.watches {d : Device} {p : Phase} {cause : Failure} {timer : Timer}
    (h : d.Breaks p cause (.expired timer)) :
    d.line.timers.due? d.lastTick = some timer ∧ timer.watches d.link = true := by
  cases h with
  | fatal fatal =>
    cases fatal with
    | unsupervised due watch => exact ⟨due, watch⟩
  | exhausted link mishap =>
    cases mishap with
    | unanswered due => exact ⟨due, by rw [link]; rfl⟩

/-- A confirmation of the mode that is awaited breaks nothing. -/
theorem not_breaks_confirmation {d : Device} {p : Phase} {cause : Failure} {mode : Mode}
    (link : d.link = .switching mode) (requested : d.line.requested = some mode) :
    ¬ d.Breaks p cause (.polled (some (.modeSwitched mode))) := by
  rintro (fatal | ⟨busy, mishap⟩)
  · cases fatal with
    | wrongMode link' wrong =>
      obtain rfl := Link.switching.inj (link.symm.trans link')
      rcases wrong with other | other
      · exact other rfl
      · exact other requested
  · cases mishap

/-- A valid frame with no more output than was negotiated breaks nothing. -/
theorem not_breaks_answer {d : Device} {p : Phase} {cause : Failure} {frame : Octets}
    {master : MasterFrame} (decode : MasterFrame.decode frame = .ok master)
    (fits : master.output.length ≤ d.images.output.maxLength) :
    ¬ d.Breaks p cause (.polled (some (.transferComplete frame))) := by
  rintro (fatal | ⟨busy, mishap⟩)
  · cases fatal with
    | malformed link decode' => cases decode.symm.trans decode'
    | oversized link decode' long =>
      cases decode.symm.trans decode'
      omega
  · cases mishap with
    | garbled decode' => cases decode.symm.trans decode'

/-- A move stops communication exactly if its first event tells of something that breaks it. -/
theorem Move.halts_or {p : Phase} {d u : Device} {es : Trace} (h : Move p d es u) :
    (∃ cause e, es.getLast? = some e ∧ d.Breaks p cause e ∧ d.Halts cause es u) ∨
      es.faults = 0 ∧ ∀ cause e, es.getLast? = some e → ¬ d.Breaks p cause e := by
  -- Whatever does not come from a report or a timer is out of the question.
  have own (phase : p = .call ∨ p = .work) (none : es.faults = 0) :
      es.faults = 0 ∧ ∀ cause e, es.getLast? = some e → ¬ d.Breaks p cause e := by
    refine ⟨none, fun cause e _ breaks => ?_⟩
    rcases phase with rfl | rfl <;> rcases breaks.phase with other | other <;> cases other
  cases h with
  | silence =>
    refine .inr ⟨rfl, fun cause e first breaks => ?_⟩
    cases first
    cases breaks.cause_eq
  | ignore useless =>
    refine .inr ⟨rfl, fun cause e first breaks => ?_⟩
    cases first
    rw [breaks.ignores] at useless
    cases useless
  | establish link requested lost done =>
    refine .inr ⟨?_, fun cause e first => ?_⟩
    · simp [done.upcalls.faults, lost.upcalls.faults]
      rfl
    · simp only [List.getLast?_append, List.getLast?_cons_cons, List.getLast?_singleton,
        Option.some_or, Option.some.injEq] at first
      rw [← first]
      exact not_breaks_confirmation link requested
  | exchange link decode fits settles delivers signals serves =>
    rename_i v mode frame master i₁ i₂ slots es₁ es₂ es₃ es₄
    obtain ⟨upcalls, called, whole⟩ := upcalls_exchange settles delivers signals serves
      [.linkEvent d.link .transferSucceeded, .polled (some (.transferComplete frame))] []
    rw [List.append_nil, List.append_nil] at whole
    rw [whole]
    refine .inr ⟨?_, fun cause e first => ?_⟩
    · rw [Trace.faults_append, called.faults]
      rfl
    · simp only [List.getLast?_append, List.getLast?_cons_cons, List.getLast?_singleton,
        Option.some_or, Option.some.injEq] at first
      rw [← first]
      exact not_breaks_answer decode fits
  | retry link mishap left =>
    refine .inr ⟨?_, fun cause e first => ?_⟩
    · cases mishap <;> rfl
    · cases first
      rintro (fatal | ⟨-, -, spent⟩)
      · exact mishap.not_fatal fatal
      · rw [left] at spent
        cases spent
  | exhaust link mishap left failed =>
    refine .inl ⟨_, _, ?_, .exhausted link mishap left, ?_, ?_, stopped_faulted rfl⟩
    · simp
    · rw [Trace.faults_append, failed.upcalls.faults]
      cases mishap <;> rfl
    · rw [Trace.confirmations_append, failed.confirmations]
      cases mishap <;> exact List.append_nil _
  | fault fatal failed =>
    refine .inl ⟨_, _, ?_, .fatal fatal, ?_, ?_, stopped_faulted rfl⟩
    · simp
    · rw [Trace.faults_append, failed.upcalls.faults]
      cases fatal <;> rfl
    · rw [Trace.confirmations_append, failed.confirmations]
      cases fatal <;> exact List.append_nil _
  | stale id due idle =>
    refine .inr ⟨rfl, fun cause e first breaks => ?_⟩
    cases first
    rw [breaks.watches.2] at idle
    cases idle
  | switch quiet idle pending failed =>
    exact .inr (own (.inr rfl) failed.upcalls.faults)
  | refuseMode a quiet idle pending failed =>
    exact .inr (own (.inr rfl) failed.upcalls.faults)
  | grant => exact .inr (own (.inl rfl) rfl)
  | refuse => exact .inr (own (.inl rfl) rfl)
  | clock => exact .inr (own (.inl rfl) rfl)
  | _ => exact .inr (own (.inr rfl) rfl)

theorem Move.halts {p : Phase} {d u : Device} {es : Trace} {cause : Failure} {e : Event}
    (h : Move p d es u) (first : es.getLast? = some e) (breaks : d.Breaks p cause e) :
    d.Halts cause es u := by
  rcases h.halts_or with ⟨other, e', first', breaks', halts⟩ | ⟨-, safe⟩
  · obtain rfl := Option.some.inj (first.symm.trans first')
    obtain rfl := Option.some.inj (breaks.cause_eq.symm.trans breaks'.cause_eq)
    exact halts
  · exact absurd breaks (safe cause e first)

/-- A move that hears the transceiver starts with its report. -/
theorem Move.first_poll {d u : Device} {es : Trace} (h : Move .poll d es u) (t : Trace) :
    es.getLast? = some (.polled (Trace.indication (es ++ t))) := by
  cases h with
  | silence => rfl
  | ignore => rfl
  | establish link requested lost done =>
    rw [List.getLast?_append, List.append_assoc, (done.upcalls.append lost.upcalls).indication]
    rfl
  | exchange link decode fits settles delivers signals serves =>
    rename_i v mode frame master i₁ i₂ slots es₁ es₂ es₃ es₄
    obtain ⟨upcalls, called, whole⟩ := upcalls_exchange settles delivers signals serves
      [.linkEvent d.link .transferSucceeded, .polled (some (.transferComplete frame))] []
    rw [List.append_nil, List.append_nil] at whole
    rw [whole]
    rw [List.getLast?_append, List.append_assoc, called.indication]
    rfl
  | retry link mishap => cases mishap <;> rfl
  | exhaust link mishap left failed =>
    rw [List.getLast?_append, List.append_assoc, failed.upcalls.indication]
    cases mishap <;> rfl
  | fault fatal failed =>
    rw [List.getLast?_append, List.append_assoc, failed.upcalls.indication]
    cases fatal <;> rfl

/-- A move that serves a timer starts with the one that is due. -/
theorem Move.first_expiry {d u : Device} {es : Trace} (h : Move .expiry d es u) :
    ∃ timer, d.line.timers.due? d.lastTick = some timer ∧ es.getLast? = some (.expired timer) := by
  cases h with
  | retry link mishap =>
    cases mishap with
    | unanswered due => exact ⟨_, due, rfl⟩
  | exhaust link mishap left failed =>
    cases mishap with
    | unanswered due => exact ⟨_, due, by simp⟩
  | fault fatal failed =>
    cases fatal with
    | unsupervised due => exact ⟨_, due, by simp⟩
  | stale id due => exact ⟨_, due, rfl⟩

end Device

namespace Session

open Device Trace

variable {σ : Type} {s t u v : Session σ} {now : Nat} {cause : Failure}

theorem faults_of_bare {es : Trace} (trace : t.env.trace.bare = es ++ s.env.trace.bare) :
    t.env.trace.faults = es.faults + s.env.trace.faults :=
  countP_of_bare (fun e remark => by cases e <;> first | rfl | cases remark) trace

variable [Transceiver σ] [Application σ]

/-! ## After the stop -/

theorem dispatch_of_stopped (link : s.device.link = .fault) (slots : s.device.slots = {})
    (now : Nat) : s.dispatch now = s := by
  have served : s.serveMode = s := by
    rw [serveMode, slots]
    rfl
  have works := s.works_dispatch now
  rw [served] at works
  generalize s.dispatch now = t at works ⊢
  cases works with
  | switch idle pending =>
    rw [slots] at pending
    cases pending
  | serve sio => cases link.symm.trans sio
  | exchange up => cases link.symm.trans up
  | rest => rfl

/-- Nothing is left to do in the tick in which a device has stopped. -/
theorem rest_of_stopped {d : Device} (h : d.Stopped s.device) (now : Nat) :
    (s.expireTimers now).dispatch now = s := by
  have quiet : s.device.line.timers.due? now = none := by
    rw [h.timers]
    rfl
  rw [expireTimers_of_quiet quiet, dispatch_of_stopped h.link h.slots]

/-! ## The point of failure -/

/-- Something in the tick of `s` at `now` breaks the device, which is then in the session given. -/
inductive Fails (s : Session σ) (now : Nat) : Failure → Session σ → Prop
  | reported {cause : Failure}
      (breaks : (s.enterTick now).device.Breaks .poll cause
        (.polled (s.tick now).env.trace.indication)) : Fails s now cause (s.enterTick now)
  | expired {u : Session σ} {cause : Failure} {timer : Timer} (before : Expires s now u)
      (breaks : u.device.Breaks .expiry cause (.expired timer)) : Fails s now cause u

theorem indication_tick (s : Session σ) (now : Nat) :
    (s.tick now).env.trace.indication = ((s.enterTick now).poll now).env.trace.indication := by
  obtain ⟨-, -, expired, worked⟩ := s.performs_tick now
  rw [worked.indication (.inr rfl), expired.indication (.inl rfl)]

theorem Expires.lastTick (h : Expires s now u) : u.device.lastTick = now := by
  obtain ⟨-, polled, -, -⟩ := s.performs_tick now
  induction h with
  | polled => exact polled.performs.lastTick nofun
  | served before due ih =>
    rw [← ih] at due
    exact ((makes_serveTimer due).performs.lastTick nofun).trans ih

theorem Expires.expireTimers_eq (h : Expires s now u) :
    u.expireTimers now = ((s.enterTick now).poll now).expireTimers now := by
  induction h with
  | polled => rfl
  | served before due ih => rw [← ih, expireTimers_of_due due]

/-- However a device comes to stop, the tick ends with that. -/
theorem Fails.halts (h : s.Fails now cause u) :
    ∃ es, (s.tick now).env.trace.bare = es ++ u.env.trace.bare ∧
      u.device.Halts cause es (s.tick now).device := by
  cases h with
  | reported breaks =>
    obtain ⟨-, ⟨es, trace, move⟩, -, -⟩ := s.performs_tick now
    have first := move.first_poll (s.enterTick now).env.trace.bare
    rw [← trace, indication_bare, ← indication_tick] at first
    have halts := move.halts first breaks
    have rested : s.tick now = (s.enterTick now).poll now := rest_of_stopped halts.stopped now
    rw [rested]
    exact ⟨es, trace, halts⟩
  | expired before breaks =>
    rename_i timer
    obtain ⟨due, -⟩ := breaks.watches
    obtain ⟨es, trace, move⟩ := makes_serveTimer due
    obtain ⟨timer', due', first⟩ := move.first_expiry
    obtain rfl := Option.some.inj (due.symm.trans due')
    have halts := move.halts first breaks
    have rested : s.tick now = u.serveTimer timer := by
      rw [before.lastTick] at due
      refine Eq.trans ?_ (rest_of_stopped halts.stopped now)
      rw [← expireTimers_of_due due, before.expireTimers_eq]
      rfl
    rw [rested]
    exact ⟨es, trace, halts⟩

/-- Before a timer is served, nothing has stopped the device. -/
theorem Expires.faults (h : Expires s now u) :
    u.env.trace.faults = s.env.trace.faults ∨ u.device.line.timers = {} := by
  obtain ⟨-, ⟨es, trace, move⟩, -, -⟩ := s.performs_tick now
  have entered : (s.enterTick now).env.trace.faults = s.env.trace.faults := rfl
  induction h with
  | polled =>
    rcases move.halts_or with ⟨other, e, -, -, halts⟩ | ⟨none, -⟩
    · exact .inr halts.stopped.timers
    · left
      rw [faults_of_bare trace, none, Nat.zero_add, entered]
  | served before due ih =>
    rename_i v timer
    have still : v.env.trace.faults = s.env.trace.faults := by
      rcases ih with still | none
      · exact still
      · rw [none] at due
        cases due
    rw [← before.lastTick] at due
    obtain ⟨es, trace, move⟩ := makes_serveTimer due
    rcases move.halts_or with ⟨other, e, -, -, halts⟩ | ⟨none, -⟩
    · exact .inr halts.stopped.timers
    · left
      rw [faults_of_bare trace, none, Nat.zero_add, still]

theorem Fails.faults (h : s.Fails now cause u) : u.env.trace.faults = s.env.trace.faults := by
  cases h with
  | reported => rfl
  | expired before breaks =>
    rcases before.faults with still | none
    · exact still
    · obtain ⟨due, -⟩ := breaks.watches
      rw [none] at due
      cases due

end Session

end Sdci
