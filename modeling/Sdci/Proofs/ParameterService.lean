import Mathlib.Data.List.Infix
import Sdci.Proofs.CycleCalls
import Sdci.Proofs.Deadlines
import Sdci.Proofs.Ledger

/-! # Parameters with and without a link

Requests about parameters are served at once while there is no link, and one frame after the other
while there is one. Either way a device works off the same ledger.

* `Session.Waits`: a host that makes no requests.
* `Session.Phasewise`: what each phase of a tick keeps is kept while the host waits.
* `Session.Goes`: unless communication stops, a device works off its ledger meanwhile.
* `Session.link_of_unheard`: a tick without a report leaves a device in SIO there.
* `Event.overtaxes`: what a link does not outlast.
* `Session.link_lasts`: while the host waits, a link lasts until something overtaxes it.
* `Session.parameter_service_agrees`: both ways confirm the same and store the same.
-/

namespace Sdci
set_option autoImplicit false

namespace Device

/-! ## A tick without a report -/

theorem Move.eq_of_silent {d u : Device} {es : Trace} (h : Move .poll d es u)
    (silent : es.getLast? = some (.polled none)) : u = d := by
  cases h with
  | silence => rfl
  | ignore => cases silent
  | establish => simp at silent
  | exchange =>
    simp only [← List.append_assoc, ← List.cons_append, List.getLast?_append,
      List.getLast?_cons_cons, List.getLast?_singleton, Option.some_or] at silent
    cases silent
  | retry link mishap => cases mishap <;> cases silent
  | exhaust link mishap => cases mishap <;> simp at silent
  | fault fatal => cases fatal <;> simp at silent

theorem Moves.sound_of_work {d u : Device} {es : Trace} (h : Moves .work d es u)
    (sound : d.link ≠ .fault) : u.link ≠ .fault := by
  induction h with
  | refl => exact sound
  | tail before last ih =>
    cases last with
    | retry link mishap => cases mishap
    | exhaust link mishap => cases mishap
    | fault fatal => cases fatal
    | switch => nofun
    | launch => nofun
    | _ => exact ih

end Device

namespace Session

open Device Trace

/-! ## Ticks and waiting -/

section Waits

variable {σ : Type} {c : Config} {R : Session σ → Session σ → Prop} {s t : Session σ}

/-- A relation that a device keeps to in each phase of a tick, and its host in between. -/
structure Phasewise (c : Config) (R : Session σ → Session σ → Prop) : Prop where
  refl (s : Session σ) : R s s
  trans {s t u : Session σ} (first : R s t) (last : R t u) : R s u
  enter (s : Session σ) (now : Nat) : R s (s.enterTick now)
  mapHost (s : Session σ) (f : σ → σ) : R s (s.mapHost f)
  performs {s t : Session σ} {p : Phase} (performs : Performs p s t) (other : p ≠ .call)
    (run : Run c s.device s.env.trace.bare) : R s t

variable [Transceiver σ] [Application σ]

/-- A host that waits: the device ticks, and its transceiver and application do as they please. -/
inductive Waits : Session σ → Session σ → Prop
  | tick (s : Session σ) (now : Nat) : Waits s (s.tick now)
  | mapHost (s : Session σ) (f : σ → σ) : Waits s (s.mapHost f)

theorem Waits.step (h : Waits s t) : Step s t := by
  cases h with
  | tick now => exact .tick s now
  | mapHost f => exact .mapHost s f

namespace Phasewise

theorem tick (h : Phasewise c R) (run : Run c s.device s.env.trace.bare) (now : Nat) :
    R s (s.tick now) := by
  obtain ⟨entered, polled, expired, worked⟩ := s.performs_tick now
  have run₁ := entered.performs.run run
  have run₂ := polled.performs.run run₁
  have run₃ := expired.run run₂
  have heard := h.trans (h.enter s now) (h.performs polled.performs nofun run₁)
  exact h.trans (h.trans heard (h.performs expired nofun run₂)) (h.performs worked nofun run₃)

theorem waits (h : Phasewise c R) (run : Run c s.device s.env.trace.bare)
    (waits : Relation.ReflTransGen Waits s t) : R s t := by
  suffices both : R s t ∧ Run c t.device t.env.trace.bare from both.1
  induction waits with
  | refl => exact ⟨h.refl s, run⟩
  | tail earlier next ih =>
    obtain ⟨kept, run'⟩ := ih
    refine ⟨h.trans kept ?_, run_step next.step run'⟩
    cases next with
    | tick now => exact h.tick run' now
    | mapHost f => exact h.mapHost _ f

end Phasewise

end Waits

section Goes

variable {σ : Type} {s t u : Session σ}

/-- Unless communication has stopped in between, `t` comes from `s` by working off the ledger. -/
structure Goes (s t : Session σ) : Prop where
  alone : s.device.Alone → t.device.Alone
  sound : s.device.Alone → t.link ≠ .fault → s.link ≠ .fault
  urgent : s.device.Alone → t.link ≠ .fault → s.device.Urgent → t.device.Urgent ∧
    ∃ es, t.env.trace.bare = es ++ s.env.trace.bare ∧ s.device.Advances es t.device

theorem Goes.trans (h₁ : Goes s t) (h₂ : Goes t u) : Goes s u := by
  refine ⟨fun alone => h₂.alone (h₁.alone alone), fun alone sound => ?_,
    fun alone sound urgent => ?_⟩
  · exact h₁.sound alone (h₂.sound (h₁.alone alone) sound)
  · have alone' := h₁.alone alone
    obtain ⟨urgent', es, trace, first⟩ := h₁.urgent alone (h₂.sound alone' sound) urgent
    obtain ⟨urgent'', fs, trace', last⟩ := h₂.urgent alone' sound urgent'
    refine ⟨urgent'', fs ++ es, ?_, first.trans last⟩
    rw [trace', trace, List.append_assoc]

/-- Between two events of a device nothing changes that matters. -/
theorem Goes.of_same (es : Trace) (trace : t.env.trace.bare = es ++ s.env.trace.bare)
    (link : t.device.link = s.device.link) (slots : t.device.slots = s.device.slots)
    (store : t.device.store = s.device.store) (frame : t.device.inFlight = s.device.inFlight)
    (quiet : es.parameterConfirmations = []) (slow : es.countP Event.succeeds = 0) : Goes s t := by
  refine ⟨fun alone k mem => ?_, fun _ sound => ?_, fun _ _ urgent => ⟨?_, es, trace, ?_⟩⟩
  · rw [slots]
    exact alone k mem
  · rwa [Session.link, ← link]
  · exact urgent.keeps frame (by rw [slots])
  · exact .stays store (by rw [slots]) quiet (Nat.le_of_eq (congrArg Slots.count slots)) slow

theorem Performs.goes {c : Config} {p : Phase} (h : Performs p s t) (other : p ≠ .call)
    (run : Run c s.device s.env.trace.bare) : Goes s t := by
  obtain ⟨es, trace, moves⟩ := h
  refine ⟨moves.alone other, fun alone sound => (moves.advances run other alone sound).1,
    fun alone sound urgent => ?_⟩
  obtain ⟨urgent', advances⟩ := (moves.advances run other alone sound).2 urgent
  exact ⟨urgent', es, trace, advances⟩

theorem phasewise_goes (c : Config) : Phasewise (σ := σ) c Goes where
  refl _ := .of_same [] rfl rfl rfl rfl rfl rfl rfl
  trans := Goes.trans
  enter _ now := .of_same [.ticked now] (Env.bare_enter rfl) rfl rfl rfl rfl rfl rfl
  mapHost _ _ := .of_same [] rfl rfl rfl rfl rfl rfl rfl
  performs := Performs.goes

variable [Transceiver σ] [Application σ]

/-- Without a report a device in SIO that wants no mode stays there. -/
theorem link_of_unheard {c : Config} {now : Nat} (run : Run c s.device s.env.trace.bare)
    (sio : s.link = .inactive) (unwanted : s.device.slots.pending .setMode = none)
    (unheard : (s.tick now).env.trace.indication = none) : (s.tick now).link = .inactive := by
  obtain ⟨entered, ⟨es, polled, move⟩, -, worked⟩ := s.performs_tick now
  have first := move.first_poll (s.enterTick now).env.trace.bare
  rw [← polled, indication_bare, ← indication_tick, unheard] at first
  have same := move.eq_of_silent first
  have link : ((s.enterTick now).poll now).device.link = .inactive := by rw [same]; exact sio
  have quiet : ((s.enterTick now).poll now).device.line.timers.due? now = none := by
    refine Timers.due?_eq_none_iff.2 fun k r get => ?_
    rw [same] at get
    have watch := (run.supervised.running get).1
    rw [show s.device.link = _ from sio] at watch
    cases k <;> cases watch
  rw [expireTimers_of_quiet quiet] at worked
  obtain ⟨fs, -, work⟩ := worked
  have sound : (s.tick now).device.link ≠ .fault :=
    work.sound_of_work (by rw [link]; nofun)
  rcases (Step.tick s now).keeps_link with kept | ⟨ticket, pending, -⟩
  · rw [sio] at kept
    exact kept.resolve_right sound
  · cases unwanted.symm.trans pending

end Goes

end Session

/-! ## How long a link lasts -/

/-- What an established link does not outlast: a hardware fault, a cycle that goes on for too long,
an answer that breaks off, and one failure more than there may be before a valid answer. -/
def Event.overtaxes (c : Config) (before : Trace) : Event → Bool
  | .polled (some .hardwareFault) => true
  | .expired .maxCycle => true
  | .linkEvent _ .recoverableError => decide (c.maxRetries.toNat ≤ before.failures)
  | e => e.breaksOff c before

namespace Device

open Trace

theorem Fatal.overtaxes {d : Device} {p : Phase} {cause : Failure} {e : Event} {t : Trace}
    (h : Fatal d p cause e) (told : d.Told t) (limited : d.Limited t) {mode : Mode}
    (up : d.link.mode? = some mode) : e.overtaxes d.config t = true := by
  obtain ⟨same, -⟩ := h.breaks told limited
  cases h with
  | hardware => rfl
  | wrongMode link =>
    rw [link] at up
    cases up
  | malformed link =>
    refine same.trans ?_
    rw [Event.endsTransfer, told.link, link]
    rfl
  | oversized link =>
    refine same.trans ?_
    rw [Event.endsTransfer, told.link, link]
    rfl
  | unsupervised due watch other =>
    rename_i timer
    cases timer with
    | modeSwitch => cases link : d.link <;> simp [link, Timer.watches, Link.mode?] at watch up
    | transfer => exact absurd rfl other
    | maxCycle => rfl

theorem Move.lasts {c : Config} {p : Phase} {d u : Device} {es t : Trace} (run : Run c d t)
    (h : Move p d es u) (unwanted : d.slots.isOpen .setMode = false) {mode : Mode}
    (up : d.link.mode? = some mode) (borne : es.Without (Event.overtaxes c) t) :
    u.link.mode? = some mode := by
  rw [← run.config_eq] at borne
  cases h with
  | establish link =>
    rw [link] at up
    cases up
  | exchange link decode fits settles =>
    rw [link] at up
    rw [settles.eq]
    exact up
  | retry link =>
    rw [link] at up
    exact up
  | exhaust link mishap left =>
    -- The failure that is entered here finds no attempt left.
    have spent : d.config.maxRetries.toNat ≤ t.failures := Nat.not_lt.1 fun more => by
      cases left.symm.trans (run.left_iff.2 more)
    rw [← mishap.inert.failures t] at spent
    obtain ⟨-, rest⟩ := without_append.1 borne
    have few := (without_cons.1 (without_cons.1 (without_cons.1 rest).2).2).1
    exact absurd spent (of_decide_eq_false few)
  | fault fatal =>
    obtain ⟨-, -, first⟩ := by simpa [without_append] using borne
    rw [fatal.overtaxes run.told run.limited up] at first
    cases first
  | switch quiet idle pending =>
    cases unwanted.symm.trans (Slots.isOpen_of_pending pending)
  | launch unhurried link =>
    rw [link] at up
    exact up
  | _ => exact up

theorem Moves.lasts {c : Config} {p : Phase} {d u : Device} {es t : Trace} (h : Moves p d es u)
    (run : Run c d t) (other : p ≠ .call) (unwanted : d.slots.isOpen .setMode = false) {mode : Mode}
    (up : d.link.mode? = some mode) (borne : es.Without (Event.overtaxes c) t) :
    u.link.mode? = some mode := by
  induction h with
  | refl => exact up
  | tail before last ih =>
    obtain ⟨later, earlier⟩ := without_append.1 borne
    have still := before.isOpen_eq_false (k := .setMode) other nofun unwanted
    exact last.lasts (run.moves before) still (ih earlier) later

end Device

namespace Session

open Device Trace

section Lasts

variable {σ : Type} {c : Config} {s t u : Session σ}

/-- If no mode is wanted in `s`, none is in `t`, and a link of `s` is still there in `t` unless too
much has happened in between. -/
structure Lasts (c : Config) (s t : Session σ) : Prop where
  unwanted : s.device.slots.isOpen .setMode = false → t.device.slots.isOpen .setMode = false
  link : s.device.slots.isOpen .setMode = false →
    ∃ es, t.env.trace.bare = es ++ s.env.trace.bare ∧ ∀ mode, s.link.mode? = some mode →
      es.Without (Event.overtaxes c) s.env.trace.bare → t.link.mode? = some mode

theorem Lasts.of_same (es : Trace) (trace : t.env.trace.bare = es ++ s.env.trace.bare)
    (slots : t.device.slots = s.device.slots) (link : t.link = s.link) : Lasts c s t := by
  refine ⟨fun unwanted => ?_, fun _ => ⟨es, trace, fun mode up _ => ?_⟩⟩
  · rw [slots]
    exact unwanted
  · rw [link]
    exact up

theorem Lasts.trans (h₁ : Lasts c s t) (h₂ : Lasts c t u) : Lasts c s u := by
  refine ⟨fun unwanted => h₂.unwanted (h₁.unwanted unwanted), fun unwanted => ?_⟩
  obtain ⟨es, trace, first⟩ := h₁.link unwanted
  obtain ⟨fs, trace', last⟩ := h₂.link (h₁.unwanted unwanted)
  refine ⟨fs ++ es, by rw [trace', trace, List.append_assoc], fun mode up borne => ?_⟩
  obtain ⟨later, earlier⟩ := without_append.1 borne
  rw [← trace] at later
  exact last mode (first mode up earlier) later

theorem phasewise_lasts (c : Config) : Phasewise (σ := σ) c (Lasts c) where
  refl _ := .of_same [] rfl rfl rfl
  trans := Lasts.trans
  enter _ now := .of_same [.ticked now] (Env.bare_enter rfl) rfl rfl
  mapHost _ _ := .of_same [] rfl rfl rfl
  performs := by
    rintro s t p ⟨es, trace, moves⟩ other run
    refine ⟨moves.isOpen_eq_false (k := .setMode) other nofun, fun unwanted => ?_⟩
    exact ⟨es, trace, fun mode up borne => moves.lasts run other unwanted up borne⟩

variable [Transceiver σ] [Application σ]

/-- A link lasts while the host waits if no other mode is wanted, as long as no more transfers fail
before a valid answer than the retry limit says, no cycle goes on for too long, the hardware does
not fail, and no answer breaks off. -/
theorem link_lasts (reach : Reach s) {mode : Mode} (up : s.link.mode? = some mode)
    (unwanted : .setMode ∉ s.outstanding) (waits : Relation.ReflTransGen Waits s t)
    (borne : ∀ e before, e :: before <:+ t.env.trace.bare → s.env.trace.bare <:+ before →
      e.overtaxes s.device.config before = false) :
    t.link.mode? = some mode := by
  obtain ⟨c, -, run⟩ := reach.run
  have closed := Bool.eq_false_iff.2 (mt mem_outstanding.2 unwanted)
  obtain ⟨es, trace, lasts⟩ := ((phasewise_lasts c).waits run waits).link closed
  rw [run.config_eq, trace] at borne
  refine lasts mode up fun e before latest => borne e _ ?_ (List.suffix_append ..)
  obtain ⟨later, whole⟩ := latest
  exact ⟨later, by rw [← whole, List.append_assoc]; rfl⟩

end Lasts

/-! ## Agreement -/

section Agreement

variable {σ τ : Type}

theorem ledger_eq_nil_iff_outstanding {s : Session σ} :
    s.device.ledger.1 = [] ↔ ∀ k ∈ Service.parameters, k ∉ s.outstanding := by
  rw [ledger_eq_nil_iff, Slots.parameterRequests_eq_nil_iff]
  simp only [mem_outstanding, Bool.not_eq_true]

variable [Transceiver σ] [Application σ] [Transceiver τ] [Application τ]

/-- Two devices with the same parameters and the same open requests about them, one in SIO without a
wish to leave it, the other with no frame in flight and no request for a mode, for new input data or
for an event. One tick without a report ends all these requests of the one, in the order of their
urgency. The other, left to itself for as long as its link lasts (see `link_lasts`), ends them in
the same order and with the same results, and when none is left its parameters are the same too.
Until then every valid answer ends a request, so as many as there were, and one more for each
access, are enough. -/
theorem parameter_service_agrees {here : Session σ} {there done : Session τ}
    (reach : Reach here) (reach' : Reach there) (now : Nat)
    (sio : here.link = .inactive) (unwanted : here.wanted = none)
    (unheard : (here.tick now).env.trace.indication = none)
    (first : there.device.inFlight = none)
    (alone : ∀ k ∈ [Service.setMode, .input, .event], k ∉ there.outstanding)
    (store : there.device.store = here.device.store)
    (requests : ∀ k ∈ Service.parameters,
      there.device.slots.request? k = here.device.slots.request? k)
    (waits : Relation.ReflTransGen Waits there done) (sound : done.link ≠ .fault) :
    let ended := here.device.ledger.1
    ended.map Prod.fst = Service.parameters.filter (· ∈ here.outstanding) ∧
    ((∀ k ∈ Service.parameters, k ∉ (here.tick now).outstanding) ∧
      (here.tick now).env.trace.parameterConfirmations =
          ended.reverse ++ here.env.trace.parameterConfirmations ∧
        (here.tick now).device.store = here.device.ledger.2) ∧
    ((∀ k ∈ Service.parameters, k ∉ done.outstanding) →
      done.env.trace.parameterConfirmations =
          ended.reverse ++ there.env.trace.parameterConfirmations ∧
        done.device.store = here.device.ledger.2) ∧
    ((∃ k ∈ Service.parameters, k ∈ done.outstanding) →
      (∃ so, so <+: ended ∧ done.env.trace.parameterConfirmations =
          so.reverse ++ there.env.trace.parameterConfirmations) ∧
        done.env.trace.countP Event.succeeds + done.outstanding.length +
            there.env.trace.countP Event.isAccess ≤
          there.env.trace.countP Event.succeeds + there.outstanding.length +
            done.env.trace.countP Event.isAccess) := by
  intro ended
  obtain ⟨c, -, run⟩ := reach.run
  obtain ⟨c', -, run'⟩ := reach'.run
  have settled : here.device.slots.pending .setMode = none := Option.map_eq_none_iff.1 unwanted
  have link := link_of_unheard run sio settled unheard
  have gone := (phasewise_goes c').waits run' waits
  have calm : here.device.Alone := alone_of_inactive run sio settled
  have calm' : there.device.Alone := fun k mem =>
    Bool.eq_false_iff.2 (mt mem_outstanding.2 (alone k mem))
  have frame : here.device.inFlight = none :=
    run.booked.inFlight_of_away (by rw [show here.device.link = _ from sio]; rfl)
  have lasting : (here.tick now).link ≠ .fault := by
    rw [link]
    nofun
  obtain ⟨-, es, trace, ⟨all, confirmed, ledger⟩, -⟩ :=
    ((phasewise_goes c).tick run now).urgent calm lasting (urgent_of_none frame)
  obtain ⟨-, fs, trace', ⟨so, confirmed', ledger'⟩, progress⟩ :=
    gone.urgent calm' sound (urgent_of_none first)
  have same : there.device.ledger = here.device.ledger := by
    rw [Device.ledger, Device.ledger, store, Slots.parameterRequests_congr requests]
  have served : ∀ k ∈ Service.parameters, k ∉ (here.tick now).outstanding := fun k about mem => by
    have own : k ∈ Service.outOfCycle := List.mem_cons_of_mem _ (List.mem_cons_of_mem _ about)
    have closed := isOpen_eq_false_of_inactive run link settled own
    cases closed.symm.trans (mem_outstanding.1 mem)
  rw [ledger_of_nil (ledger_eq_nil_iff_outstanding.2 served), List.append_nil] at ledger
  obtain ⟨rfl, stored⟩ : ended = all ∧ here.device.ledger.2 = (here.tick now).device.store :=
    Prod.mk.inj ledger
  rw [same] at ledger'
  have whole : ended = so ++ done.device.ledger.1 := congrArg Prod.fst ledger'
  refine ⟨?_, ⟨served, ?_, stored.symm⟩, fun none => ⟨?_, ?_⟩, fun some => ⟨?_, ?_⟩⟩
  · refine (here.device.store.kinds_serveAll _).trans ((Slots.kinds_requests ..).trans ?_)
    refine List.filter_congr fun k _ => ?_
    exact Bool.eq_iff_iff.2 (mem_outstanding.symm.trans decide_eq_true_iff.symm)
  · rw [parameterConfirmations_of_bare trace, confirmed]
  · rw [whole, ledger_eq_nil_iff_outstanding.2 none, List.append_nil,
      parameterConfirmations_of_bare trace', confirmed']
  · rw [ledger', ledger_of_nil (ledger_eq_nil_iff_outstanding.2 none)]
  · refine ⟨so, ⟨_, whole.symm⟩, ?_⟩
    rw [parameterConfirmations_of_bare trace', confirmed']
  · obtain ⟨k, about, mem⟩ := some
    have more := progress fun none => ledger_eq_nil_iff_outstanding.1 none k about mem
    have accesses := countP_of_bare Event.isAccess_of_isRemark trace'
    have answers : done.env.trace.countP Event.succeeds = _ := countP_of_bare (fun e remark => by
      cases e <;> first | rfl | cases remark) trace'
    change done.env.trace.countP Event.succeeds + done.device.slots.count + _ ≤
      _ + there.device.slots.count + _
    omega

end Agreement

end Session

/-! ## Four requests at once -/

namespace Bench

open Session

/-- A device with a request of each kind about its parameters. -/
def queried (s : Session Bench) : Session Bench :=
  ((s.setIdent ⟨1, 2, 3⟩).2.getIdent.2.setCom { inputLength := 2 }).2.getCom.2

/-- A device in COM1 whose transceiver takes no frame, with these requests. -/
def congested : Session Bench :=
  queried ((((fresh.mapHost fun b => { b with wire.acceptTransfer := false }).setMode .com1).2.tick
    1000).tick 2000)

/-- The same device once the transceiver takes frames again. The first reply is spoilt. -/
def relieved : Session Bench :=
  let restored := congested.mapHost fun b =>
    { b with wire.acceptTransfer := true, wire.corruptReplies := 1 }
  (((((restored.tick 3000).tick 4000).tick 5000).tick 6000).tick 7000).tick 8000

theorem reach_queried {s : Session Bench} (h : Reach s) : Reach (queried s) :=
  (((h.submit ⟨.setIdent, _⟩ nofun).submit ⟨.getIdent, ()⟩ nofun).submit ⟨.setCom, _⟩ nofun).submit
    ⟨.getCom, ()⟩ nofun

theorem reach_congested : Reach congested :=
  reach_queried ((((reach_fresh.step (.mapHost ..)).submit ⟨.setMode, .com1⟩ nofun).tick 1000).tick
    2000)

theorem waits_relieved : Relation.ReflTransGen Waits congested relieved :=
  ((((((Relation.ReflTransGen.single (.mapHost ..)).tail (.tick _ 3000)).tail (.tick _ 4000)).tail
    (.tick _ 5000)).tail (.tick _ 6000)).tail (.tick _ 7000)).tail (.tick _ 8000)

end Bench

theorem Session.parameter_service_agrees_queried :
    let here := Bench.queried Bench.fresh
    let served := here.tick 1000
    Session.Reach here ∧ Session.Reach Bench.congested ∧
      (∀ k ∈ Service.parameters, k ∈ here.outstanding ∧ k ∉ served.outstanding) ∧
      Bench.relieved.env.trace.parameterConfirmations =
        served.env.trace.parameterConfirmations ∧
      Bench.relieved.device.store = served.device.store ∧
      served.device.store = ⟨⟨1, 2, 3⟩, { inputLength := 2 }⟩ := by
  intro here served
  have reach : Session.Reach here := Bench.reach_queried Bench.reach_fresh
  have unheard : served.env.trace.indication = none := by decide +kernel
  have settled : here.wanted.isNone := by decide +kernel
  have frame : Bench.congested.device.inFlight.isNone := by decide +kernel
  have requests : ∀ k ∈ Service.parameters,
      Bench.congested.device.slots.request? k = here.device.slots.request? k := by
    have ident : (Bench.congested.device.slots.setIdent.map Ticket.payload : Option Ident) =
        here.device.slots.setIdent.map Ticket.payload := by decide +kernel
    have com : (Bench.congested.device.slots.setCom.map Ticket.payload : Option Com) =
        here.device.slots.setCom.map Ticket.payload := by decide +kernel
    have ident' : (Bench.congested.device.slots.getIdent.map Ticket.payload : Option Unit) =
        here.device.slots.getIdent.map Ticket.payload := by decide +kernel
    have com' : (Bench.congested.device.slots.getCom.map Ticket.payload : Option Unit) =
        here.device.slots.getCom.map Ticket.payload := by decide +kernel
    intro k about
    apply Slots.request?_eq_of_payload
    cases k with
    | setIdent => exact ident
    | getIdent => exact ident'
    | setCom => exact com
    | getCom => exact com'
    | _ => contradiction
  -- The one failure is within the limit, and nothing else overtaxes the link.
  have borne : (Bench.relieved.env.trace.bare.tails.all fun
      | [] => true
      | e :: before => !e.overtaxes Bench.congested.device.config before) = true := by
    decide +kernel
  have sound : Bench.relieved.link.mode? = some .com1 :=
    Session.link_lasts Bench.reach_congested (by decide +kernel) (by decide +kernel)
      Bench.waits_relieved fun e before latest _ => by
        simpa using List.all_eq_true.1 borne _ ((List.mem_tails _ _).2 latest)
  obtain ⟨-, ⟨empty, first, stored⟩, last, -⟩ :=
    Session.parameter_service_agrees reach Bench.reach_congested 1000 (by decide +kernel)
      (Option.isNone_iff_eq_none.1 settled) unheard (Option.isNone_iff_eq_none.1 frame)
      (by decide +kernel) (by decide +kernel) requests Bench.waits_relieved
      (fun fault => by rw [fault] at sound; cases sound)
  obtain ⟨confirmed, stored'⟩ := last (by decide +kernel)
  have none : here.env.trace.parameterConfirmations = [] := by decide +kernel
  have none' : Bench.congested.env.trace.parameterConfirmations = [] := by decide +kernel
  rw [none] at first
  rw [none', ← first] at confirmed
  have opened : ∀ k ∈ Service.parameters, k ∈ here.outstanding := by decide +kernel
  exact ⟨reach, Bench.reach_congested, fun k about => ⟨opened k about, empty k about⟩, confirmed,
    stored'.trans stored.symm, by decide +kernel⟩

end Sdci
