import Sdci.Proofs.WireMode

/-! # When the transceiver is called

A transceiver that has accepted a frame or a mode has work to do, and a device leaves it alone until
it has reported, or was given up. A tick calls it once at most, and only if the state of the link
allows the call.

* `Trace.calls`: the modes and the frames that the transceiver was offered.
* `Trace.awaited`: what the transceiver still owes the device.
* `Device.Permits`: the calls that a device may make.
* `Device.Run.permits_of_call`: every call of a run was one of them.
* `Session.Reach.transceiver_discipline`: the calls of every step and of every run.
-/

namespace Sdci
set_option autoImplicit false

/-! ## Calls -/

namespace Event

/-- The transceiver is offered a mode or a frame. -/
def isCall : Event → Bool
  | modeSet _ _ => true
  | transferred _ _ => true
  | _ => false

theorem isCall_eq_false_of_isUpcall {e : Event} (h : e.isUpcall = true) : e.isCall = false := by
  cases e <;> first | rfl | cases h

end Event

namespace Trace

def calls (t : Trace) : Trace := t.filter Event.isCall

/-- No call is made. -/
abbrev Idle (es : Trace) : Prop := es.Lacks Event.isCall

theorem Upcalls.idle {es : Trace} (h : es.Upcalls) : es.Idle :=
  h.lacks fun _ => Event.isCall_eq_false_of_isUpcall

theorem Idle.calls {es : Trace} (h : es.Idle) (t : Trace) : calls (es ++ t) = calls t := by
  have none : es.filter Event.isCall = [] :=
    List.filter_eq_nil_iff.2 fun e mem => Bool.eq_false_iff.1 (h e mem)
  rw [Trace.calls, List.filter_append, none, List.nil_append, Trace.calls]

theorem calls_bare (t : Trace) : calls (bare t) = calls t := by
  rw [calls, bare, List.filter_filter, calls]
  refine List.filter_congr fun e _ => ?_
  cases e <;> simp [Event.isCall, Event.isRemark]

end Trace

/-! ## What is awaited -/

/-- What the transceiver owes to the device. -/
inductive Awaited
  /-- The answer to a frame, or its failure. -/
  | completion
  /-- The confirmation of a mode. -/
  | confirmation
  deriving DecidableEq

namespace Awaited

/-- The timer that limits the wait. -/
def timer : Awaited → Timer
  | completion => .transfer
  | confirmation => .modeSwitch

/-- The reports that end the wait. -/
def metBy : Awaited → Indication → Bool
  | completion, .transferComplete _ => true
  | completion, .transferFailed _ => true
  | confirmation, .modeSwitched _ => true
  | _, _ => false

/-- A wait ends with its report, with its timer or with a fault. -/
def endsWith (a : Awaited) : Event → Bool
  | .polled (some report) => a.metBy report
  | .expired timer => timer == a.timer
  | .linkEvent _ event => event == .fatalError
  | _ => false

end Awaited

namespace Link

/-- What a state of the link waits for. -/
def awaited : Link → Option Awaited
  | switching _ => some .confirmation
  | transferring _ => some .completion
  | _ => none

theorem metBy_of_ignores {l : Link} {i : Indication} (useless : l.ignores i = true) {a : Awaited}
    (owed : l.awaited = some a) : a.metBy i = false := by
  cases l <;> cases owed <;> cases i <;> first | rfl | cases useless

theorem watches_of_awaited {l : Link} {a : Awaited} (owed : l.awaited = some a) :
    a.timer.watches l = true := by
  cases l <;> cases owed <;> rfl

theorem awaited_of_idle {l : Link} (idle : l.idle = true) : l.awaited = none := by
  cases l <;> first | rfl | cases idle

end Link

/-- What the transceiver promises when it accepts a call. -/
def Event.awaits? : Event → Option Awaited
  | modeSet _ true => some .confirmation
  | transferred _ true => some .completion
  | _ => none

namespace Trace

/-- The promise that the latest accepted call has left open. -/
def awaited : Trace → Option Awaited
  | [] => none
  | e :: t => e.awaits?.or ((awaited t).filter fun a => !a.endsWith e)

theorem awaited_cons_of_keeps {e : Event} {t : Trace} (silent : e.awaits? = none)
    (keeps : ∀ a, awaited t = some a → a.endsWith e = false) :
    awaited (e :: t) = awaited t := by
  rw [awaited, silent, Option.none_or]
  cases owed : awaited t with
  | none => rfl
  | some a => simp [Option.filter, keeps a owed]

theorem awaited_cons {e : Event} (silent : e.awaits? = none)
    (keeps : ∀ a : Awaited, a.endsWith e = false) (t : Trace) : awaited (e :: t) = awaited t :=
  awaited_cons_of_keeps silent fun a _ => keeps a

theorem awaited_bare (t : Trace) : awaited (bare t) = awaited t := by
  induction t with
  | nil => rfl
  | cons e t ih =>
    cases remark : e.isRemark with
    | false => rw [bare_cons remark, awaited, awaited, ih]
    | true =>
      rw [bare_cons_remark remark, ih]
      cases e with
      | noted => exact (awaited_cons rfl (fun _ => rfl) t).symm
      | _ => cases remark

theorem Upcalls.awaited {es : Trace} (h : es.Upcalls) (t : Trace) :
    awaited (es ++ t) = awaited t := by
  induction es with
  | nil => rfl
  | cons e es ih =>
    have rest := ih fun x mem => h x (List.mem_cons_of_mem e mem)
    have upcall := h e List.mem_cons_self
    rw [List.cons_append, awaited_cons, rest]
    · cases e <;> first | rfl | cases upcall
    · intro a
      cases e <;> first | rfl | cases upcall

theorem awaited_fatal (l : Link) (t : Trace) :
    awaited (.linkEvent l .fatalError :: t) = none := by
  cases owed : awaited t <;> simp [awaited, Event.awaits?, Awaited.endsWith, owed]

end Trace

namespace Device

/-- The calls that a device may make: a frame on an idle link that is up in the mode of the line,
and a mode that is asked for. -/
inductive Permits (d : Device) : Event → Prop
  | frame {mode : Mode} (frame : Octets) (accepted : Bool) (link : d.link = .active mode)
      (rate : mode.active = true) (line : d.line.mode = mode) :
      Permits d (.transferred frame accepted)
  | mode {ticket : Ticket .setMode} (accepted : Bool) (idle : d.link.idle = true)
      (pending : d.slots.pending .setMode = some ticket) :
      Permits d (.modeSet ticket.payload accepted)

theorem Permits.idle {d : Device} {call : Event} (h : d.Permits call) : d.link.idle = true := by
  cases h with
  | frame frame accepted link => rw [link]; rfl
  | mode accepted idle => exact idle

theorem Permits.isCall {d : Device} {call : Event} (h : d.Permits call) : call.isCall = true := by
  cases h <;> rfl

/-! ## One move -/

/-- A move calls the transceiver once at most, and does so first. -/
inductive Calls (d : Device) : Phase → Trace → Prop
  | none {p : Phase} {es : Trace} (idle : es.Idle) : Calls d p es
  | one {call : Event} {later : Trace} (permits : d.Permits call) (idle : later.Idle) :
      Calls d .work (later ++ [call])

theorem Move.calls {c : Config} {p : Phase} {d u : Device} {es t : Trace} (run : Run c d t)
    (h : Move p d es u) : d.Calls p es := by
  have clean {cause : Failure} {fs : Trace} (failed : Confirms (.error cause) d.leftovers fs) :
      fs = [] := by
    rw [run.housed.leftovers] at failed
    cases failed
    rfl
  cases h with
  | establish link requested lost done =>
    refine .none ?_
    simp [done.upcalls.idle, lost.upcalls.idle, Event.isCall]
  | exchange link decode fits settles delivers signals serves =>
    refine .none ?_
    simp [serves.upcalls.idle, signals.upcalls.idle, delivers.upcalls.idle, settles.upcalls.idle,
      Event.isCall]
  | retry link mishap =>
    refine .none ?_
    cases mishap <;> simp [Event.isCall]
  | exhaust link mishap left failed =>
    refine .none ?_
    cases mishap <;> simp [failed.upcalls.idle, Event.isCall]
  | fault fatal failed =>
    refine .none ?_
    cases fatal <;> simp [failed.upcalls.idle, Event.isCall]
  | switch quiet idle pending failed =>
    rename_i ticket fs
    obtain rfl := clean failed
    have later : Trace.Idle [.linkEvent d.link (.modeSetAccepted ticket.payload)] := by
      simp [Event.isCall]
    exact .one (.mode true idle pending) later
  | refuseMode a quiet idle pending failed =>
    rename_i ticket fs
    obtain rfl := clean failed
    have later : Trace.Idle [.confirmed .setMode (.error .badParameter) a] := by
      simp [Event.isCall]
    exact .one (.mode false idle pending) later
  | launch unhurried link chosen =>
    rename_i mode out
    have up : d.link.mode? = some mode := by rw [link]; rfl
    have later : Trace.Idle [.linkEvent d.link .transferAccepted] := by simp [Event.isCall]
    exact .one (.frame _ true link (run.rated mode up) (run.tuned.up mode up)) later
  | busy unhurried link chosen =>
    rename_i mode out
    have up : d.link.mode? = some mode := by rw [link]; rfl
    have later : Trace.Idle [] := Trace.lacks_nil
    exact .one (.frame _ false link (run.rated mode up) (run.tuned.up mode up)) later
  | _ => exact .none (by simp [Event.isCall])

theorem Move.awaited {p : Phase} {d u : Device} {es t : Trace} (h : Move p d es u)
    (before : t.awaited = d.link.awaited) : Trace.awaited (es ++ t) = u.link.awaited := by
  have met {a : Awaited} {e : Event} (owed : d.link.awaited = some a) (silent : e.awaits? = none)
      (ends : a.endsWith e = true) : Trace.awaited (e :: t) = none := by
    rw [Trace.awaited, before, owed, silent]
    simp [Option.filter, ends]
  cases h with
  | refuse =>
    rw [← before]
    exact (Trace.awaited_cons rfl (fun _ => rfl) _).trans (Trace.awaited_cons rfl (fun _ => rfl) t)
  | ignore useless =>
    rename_i i
    rw [← before]
    refine Trace.awaited_cons_of_keeps rfl fun a owed => Link.metBy_of_ignores useless ?_
    rw [← before]
    exact owed
  | establish link requested lost done =>
    rename_i mode es₁ es₂
    have owed : d.link.awaited = some .confirmation := by rw [link]; rfl
    have free : (d.established mode).link.awaited = none := by
      unfold established
      cases mode.active <;> rfl
    rw [List.append_assoc, (done.upcalls.append lost.upcalls).awaited, free]
    exact (Trace.awaited_cons rfl (fun _ => rfl) _).trans (met owed rfl rfl)
  | exchange link decode fits settles delivers signals serves =>
    rename_i v mode frame master i₁ i₂ slots es₁ es₂ es₃ es₄
    obtain ⟨upcalls, called, whole⟩ := upcalls_exchange settles delivers signals serves
      [.linkEvent d.link .transferSucceeded, .polled (some (.transferComplete frame))] t
    have owed : d.link.awaited = some .completion := by rw [link]; rfl
    rw [whole, called.awaited, settles.eq]
    exact (Trace.awaited_cons rfl (fun _ => rfl) _).trans (met owed rfl rfl)
  | retry link mishap =>
    have owed : d.link.awaited = some .completion := by rw [link]; rfl
    refine (Trace.awaited_cons rfl (fun _ => rfl) _).trans ?_
    refine (Trace.awaited_cons rfl (fun _ => rfl) _).trans ?_
    cases mishap <;> exact met owed rfl rfl
  | exhaust link mishap left failed =>
    rw [List.append_assoc, failed.upcalls.awaited]
    exact Trace.awaited_fatal _ _
  | fault fatal failed =>
    rw [List.append_assoc, failed.upcalls.awaited]
    exact Trace.awaited_fatal _ _
  | stale id due idle =>
    rename_i timer
    have kept (a : Awaited) (owed : t.awaited = some a) : (timer == a.timer) = false := by
      rw [before] at owed
      refine beq_eq_false_iff_ne.2 fun same => ?_
      rw [same, Link.watches_of_awaited owed] at idle
      cases idle
    refine (Trace.awaited_cons rfl (fun _ => rfl) _).trans ?_
    exact (Trace.awaited_cons_of_keeps rfl kept).trans before
  | switch => exact Trace.awaited_cons rfl (fun _ => rfl) _
  | refuseMode a quiet idle pending failed =>
    refine (Trace.awaited_cons rfl (fun _ => rfl) _).trans ?_
    refine (Trace.awaited_cons rfl (fun _ => rfl) _).trans ?_
    exact (failed.upcalls.awaited t).trans before
  | launch => exact Trace.awaited_cons rfl (fun _ => rfl) _
  | _ => exact (Trace.awaited_cons rfl (fun _ => rfl) t).trans before

/-! ## Runs -/

theorem Run.awaited_eq {c : Config} {d : Device} {t : Trace} (h : Run c d t) :
    t.awaited = d.link.awaited := by
  induction h with
  | start => rfl
  | move before last ih => exact last.awaited ih

/-- Every call was made by a device that was allowed to, on the history up to the call. -/
theorem Run.permits_of_call {c : Config} {d : Device} {t : Trace} (h : Run c d t) {call : Event}
    {before : Trace} (made : call :: before <:+ t) (isCall : call.isCall = true) :
    ∃ v, Run c v before ∧ v.Permits call := by
  induction h with
  | start => cases List.suffix_nil.1 made
  | move earlier last ih =>
    rename_i p d u es t
    rcases Trace.suffix_append made with old | ⟨m, rfl, within⟩
    · exact ih old
    · cases last.calls earlier with
      | none idle =>
        rw [idle call (within.subset List.mem_cons_self)] at isCall
        cases isCall
      | one permits idle =>
        rcases Trace.suffix_append within with first | ⟨m', -, later⟩
        · rcases List.suffix_cons_iff.1 first with whole | none
          · obtain ⟨rfl, rfl⟩ := List.cons.inj whole
            exact ⟨d, earlier, permits⟩
          · cases List.suffix_nil.1 none
        · rw [idle call (later.subset List.mem_cons_self)] at isCall
          cases isCall

theorem Moves.idle {c : Config} {p : Phase} {d u : Device} {es t : Trace} (run : Run c d t)
    (h : Moves p d es u) (other : p ≠ .work) : es.Idle := by
  induction h with
  | refl => exact Trace.lacks_nil
  | tail before last ih =>
    refine Trace.lacks_append.2 ⟨?_, ih⟩
    cases last.calls (run.moves before) with
    | none idle => exact idle
    | one => exact absurd rfl other

end Device

namespace Session

open Device Trace

variable {σ : Type} {s t : Session σ} {c : Config}

theorem Performs.calls_eq {p : Phase} (h : Performs p s t) (run : Run c s.device s.env.trace.bare)
    (other : p ≠ .work) : t.env.trace.calls = s.env.trace.calls := by
  obtain ⟨es, trace, moves⟩ := h
  rw [← calls_bare t.env.trace, trace, (moves.idle run other).calls, calls_bare]

theorem Makes.calls {p : Phase} (h : Makes p s t) (run : Run c s.device s.env.trace.bare) :
    t.env.trace.calls = s.env.trace.calls ∨
      ∃ call, s.device.Permits call ∧ t.env.trace.calls = call :: s.env.trace.calls := by
  obtain ⟨es, trace, move⟩ := h
  rw [← calls_bare t.env.trace, trace, ← calls_bare s.env.trace]
  cases move.calls run with
  | none idle => exact .inl (idle.calls _)
  | one permits idle =>
    rename_i call later
    refine .inr ⟨call, permits, ?_⟩
    rw [List.append_assoc, idle.calls, Trace.calls]
    exact List.filter_cons_of_pos permits.isCall

section Application

variable [Application σ]

theorem calls_finish (s : Session σ) (kind : Service) (outcome : Outcome) :
    (s.finish kind outcome).env.trace.calls = s.env.trace.calls := by
  obtain ⟨es, confirms, trace⟩ := s.bare_finish kind outcome
  rw [← calls_bare, trace, confirms.upcalls.idle.calls, calls_bare]

theorem calls_serveMode (s : Session σ) : s.serveMode.env.trace.calls = s.env.trace.calls := by
  unfold serveMode
  split
  · exact calls_finish ..
  · rfl

theorem calls_serveAllLocally (s : Session σ) :
    s.serveAllLocally.env.trace.calls = s.env.trace.calls := by
  fun_induction serveAllLocally s with
  | case1 s next => rfl
  | case2 s request next ih =>
    rw [ih]
    exact calls_finish ..

variable [Transceiver σ]

/-- The dispatch work calls the transceiver once at most. -/
theorem Works.calls (h : Works s s.device.lastTick t)
    (quiet : s.device.line.timers.due? s.device.lastTick = none)
    (run : Run c s.device s.env.trace.bare) :
    t.env.trace.calls = s.env.trace.calls ∨
      ∃ call, s.device.Permits call ∧ t.env.trace.calls = call :: s.env.trace.calls := by
  cases h with
  | switch idle pending => exact (makes_switchTo quiet idle pending).calls run
  | serve link settled => exact .inl (calls_serveAllLocally s)
  | exchange link settled => exact (makes_exchange ⟨quiet, settled⟩ link).calls run
  | rest => exact .inl rfl

theorem calls_prepare (run : Run c s.device s.env.trace.bare) (now : Nat) :
    (s.prepare now).env.trace.calls = s.env.trace.calls := by
  obtain ⟨entered, polled, expired, -⟩ := s.performs_tick now
  have run₁ := entered.performs.run run
  have run₂ := polled.performs.run run₁
  have attended : (s.attend now).env.trace.calls = s.env.trace.calls := by
    rw [attend, expired.calls_eq run₂ nofun, polled.performs.calls_eq run₁ nofun,
      entered.performs.calls_eq run nofun]
  rw [prepare, calls_serveMode, attended]

/-- In every run a tick calls the transceiver once at most, and only as the device may when its
dispatch work begins; a request never does. No call falls between an accepted one and the report
that it promised, the end of the time for it, or a fault. A frame is only ever offered on a link
that is up, so never in SIO nor in the fault state. -/
theorem Reach.transceiver_discipline (h : Reach s) :
    (∀ now, (s.tick now).env.trace.calls = s.env.trace.calls ∨
      ∃ call, (s.prepare now).device.Permits call ∧
        (s.tick now).env.trace.calls = call :: s.env.trace.calls) ∧
    (∀ r : Request, r.kind ≠ .access → (s.submit r).2.env.trace.calls = s.env.trace.calls) ∧
    (∀ (call : Event) (before : Trace), call :: before <:+ s.env.trace → call.isCall = true →
      before.awaited = none) ∧
    (∀ (frame : Octets) (accepted : Bool) (before : Trace),
      .transferred frame accepted :: before <:+ s.env.trace →
        ∃ mode, before.link = .active mode) ∧
    s.env.trace.awaited = s.link.awaited := by
  obtain ⟨c, -, run⟩ := h.run
  have bare {call : Event} {before : Trace} (made : call :: before <:+ s.env.trace)
      (isCall : call.isCall = true) : call :: before.bare <:+ s.env.trace.bare := by
    have kept : call.isRemark = false := by cases call <;> first | rfl | cases isCall
    rw [← bare_cons kept]
    exact made.filter _
  refine ⟨fun now => ?_, fun r own => (s.makes_submit own).performs.calls_eq run nofun,
    fun call before made isCall => ?_, fun frame accepted before made => ?_, ?_⟩
  · have prepared := (s.performs_prepare now).run (run_attend run now)
    have calls := (s.works_tick now).calls (s.quiet_prepare now) prepared
    rwa [calls_prepare run now] at calls
  · obtain ⟨v, earlier, permits⟩ := run.permits_of_call (bare made isCall) isCall
    rw [← awaited_bare, earlier.awaited_eq]
    exact Link.awaited_of_idle permits.idle
  · obtain ⟨v, earlier, permits⟩ := run.permits_of_call (bare made rfl) rfl
    cases permits with
    | frame _ _ link rate line =>
      rename_i mode
      refine ⟨mode, ?_⟩
      rw [← Trace.link_bare, earlier.told.link]
      exact link
  · rw [← awaited_bare, run.awaited_eq]
    rfl

/-- While the answer to a frame is awaited, a tick leaves the transceiver alone. -/
theorem transceiver_discipline_silent :
    let s := Bench.linked.mapHost fun b => { b with wire := { b.wire with queue := [] } }
    Reach s ∧ s.env.trace.awaited = some .completion ∧
      (s.tick 2100).env.trace.calls = s.env.trace.calls := by
  intro s
  have reach : Reach s := Bench.reach_linked.step (.mapHost ..)
  have link : s.link = .transferring .com1 := by decide +kernel
  have waits : (s.prepare 2100).device.link.idle = false := by decide +kernel
  obtain ⟨ticks, -, -, -, awaited⟩ := reach.transceiver_discipline
  rw [link] at awaited
  refine ⟨reach, awaited, ?_⟩
  rcases ticks 2100 with same | ⟨call, permits, -⟩
  · exact same
  · rw [permits.idle] at waits
    cases waits

end Application

end Session

end Sdci
