import Mathlib.Data.List.Basic
import Sdci.Device.State
import Sdci.Proofs.Slots

/-! # The same things a while later

Two devices to which the same happens, to the one of them a while later. Their timers differ by that
while, and their histories by the times of the ticks. Their requests may have been made at any time:
no decision depends on it.

* `Timers.delay`, `Event.delay`: timers and events a while later.
* `Slots.Alike`: the same requests, whenever they were made.
* `Bisimulation`: hosts that give the same answers.
* `Env.Lags`, `Device.Lags`: the same environment and the same device a while later.
-/

namespace Sdci
set_option autoImplicit false

variable {lag : Nat}

/-! ## Timers -/

def Running.delay (lag : Nat) (r : Running) : Running := { r with started := r.started + lag }

theorem Running.deadline_delay (r : Running) : (r.delay lag).deadline = r.deadline + lag :=
  Nat.add_right_comm ..

namespace Timers

/-- The same timers, each started a while later. -/
def delay (lag : Nat) (t : Timers) : Timers where
  modeSwitch := t.modeSwitch.map (Running.delay lag)
  transfer := t.transfer.map (Running.delay lag)
  maxCycle := t.maxCycle.map (Running.delay lag)

variable (t : Timers)

theorem get_delay (k : Timer) : (t.delay lag).get k = (t.get k).map (Running.delay lag) := by
  cases k <;> rfl

theorem delay_start (k : Timer) (duration : UInt32) (now : Nat) :
    (t.start k duration now).delay lag = (t.delay lag).start k duration (now + lag) := by
  cases k <;> rfl

theorem delay_stop (k : Timer) : (t.stop k).delay lag = (t.delay lag).stop k := by
  cases k <;> rfl

theorem pending_delay (ks : List Timer) :
    (t.delay lag).pending ks = (t.pending ks).map fun e => (e.1, e.2 + lag) := by
  unfold pending
  rw [List.map_filterMap]
  refine List.filterMap_congr fun k _ => ?_
  rw [deadline?, deadline?, get_delay]
  cases t.get k with
  | none => rfl
  | some r => exact congrArg (fun d => some (k, d)) r.deadline_delay

theorem earliest_delay (l : List (Timer × Nat)) :
    earliest (l.map fun e => (e.1, e.2 + lag)) = (earliest l).map fun e => (e.1, e.2 + lag) := by
  induction l with
  | nil => rfl
  | cons e rest ih =>
    rw [List.map_cons, earliest, earliest, ih]
    cases earliest rest with
    | none => rfl
    | some e' =>
      simp only [Option.map_some, Nat.add_lt_add_iff_right]
      split <;> rfl

/-- The timer to be served is the same, at the same distance. -/
theorem due?_delay (now : Nat) : (t.delay lag).due? (now + lag) = t.due? now := by
  have late : (fun e : Timer × Nat => decide (e.2 ≤ now + lag)) ∘
      (fun e : Timer × Nat => (e.1, e.2 + lag)) = fun e => decide (e.2 ≤ now) :=
    funext fun e => by simp
  unfold due?
  rw [pending_delay, List.filter_map, late, earliest_delay, Option.map_map]
  rfl

theorem nextDeadline_delay : (t.delay lag).nextDeadline = t.nextDeadline.map (· + lag) := by
  unfold nextDeadline
  rw [pending_delay, earliest_delay, Option.map_map, Option.map_map]
  rfl

end Timers

def Line.delay (lag : Nat) (l : Line) : Line := { l with timers := l.timers.delay lag }

theorem Line.delay_restartTimer (l : Line) (k : Timer) (duration : UInt32) (now : Nat) :
    (l.restartTimer k duration now).delay lag =
      (l.delay lag).restartTimer k duration (now + lag) :=
  congrArg (fun timers => { l with timers }) (l.timers.delay_start k duration now)

theorem Line.delay_stopTimer (l : Line) (k : Timer) :
    (l.stopTimer k).delay lag = (l.delay lag).stopTimer k :=
  congrArg (fun timers => { l with timers }) (l.timers.delay_stop k)

/-! ## Requests -/

/-- A ticket without the time when it was made. -/
def Ticket.content {k : Service} (t : Ticket k) : k.Payload × Bool := (t.payload, t.dispatched)

namespace Slots

/-- The same requests are open, and the same of them ride on something. -/
def Alike (s u : Slots) : Prop := ∀ k, (u.get k).map Ticket.content = (s.get k).map Ticket.content

namespace Alike

variable {s u : Slots} (h : s.Alike u)

include h

theorem isOpen (k : Service) : u.isOpen k = s.isOpen k := by
  have same := congrArg Option.isSome (h k)
  rwa [Option.isSome_map, Option.isSome_map] at same

theorem isOpen_eq : u.isOpen = s.isOpen := funext h.isOpen

theorem among (ks : List Service) : u.among ks = s.among ks := by
  rw [Slots.among, Slots.among, h.isOpen_eq]

theorem openKinds : u.openKinds = s.openKinds := h.among Service.all

theorem request? (k : Service) : u.request? k = s.request? k := by
  have same := congrArg (Option.map fun c => Request.mk k c.1) (h k)
  rwa [Option.map_map, Option.map_map] at same

theorem pending (k : Service) :
    (u.pending k).map Ticket.payload = (s.pending k).map Ticket.payload := by
  have waiting (s : Slots) : (s.pending k).map Ticket.payload =
      (((s.get k).map Ticket.content).filter (!·.2)).map Prod.fst := by
    rw [Slots.pending]
    cases s.get k with
    | none => rfl
    | some t => cases dispatched : t.dispatched <;> simp [Ticket.content, Option.filter, dispatched]
  rw [waiting, waiting, h k]

theorem isPending (k : Service) : u.isPending k = s.isPending k := by
  have same := congrArg Option.isSome (h.pending k)
  rwa [Option.isSome_map, Option.isSome_map] at same

theorem pendingRequest (k : Service) : u.pendingRequest k = s.pendingRequest k := by
  have same := congrArg (Option.map (Request.mk k)) (h.pending k)
  rwa [Option.map_map, Option.map_map] at same

theorem nextOutOfCycle : u.nextOutOfCycle = s.nextOutOfCycle :=
  congrArg Service.outOfCycle.findSome? (funext h.pendingRequest)

theorem close (k : Service) : (s.close k).Alike (u.close k) := by
  intro j
  by_cases own : j = k
  · subst own
    rw [get_close_self, get_close_self]
  · rw [get_close_ne _ own, get_close_ne _ own, h j]

theorem place (r : Request) (now later : Nat) : (s.place r now).Alike (u.place r later) := by
  intro j
  by_cases own : j = r.kind
  · subst own
    rw [get_place_self, get_place_self]
    rfl
  · rw [get_place_ne _ own, get_place_ne _ own, h j]

theorem mark (k : Service) (dispatched : Bool) :
    (s.mark k dispatched).Alike (u.mark k dispatched) := by
  intro j
  by_cases own : j = k
  · subst own
    have same := congrArg (Option.map fun c => (c.1, dispatched)) (h j)
    rw [Option.map_map, Option.map_map] at same
    rw [get_mark_self, get_mark_self, Option.map_map, Option.map_map]
    exact same
  · rw [get_mark_ne _ own, get_mark_ne _ own, h j]

theorem requeue : s.requeue.Alike u.requeue := by
  intro j
  have same := congrArg (Option.map fun c => (c.1, false)) (h j)
  rw [Option.map_map, Option.map_map] at same
  rw [get_requeue, get_requeue, Option.map_map, Option.map_map]
  exact same

theorem takeWhere (select : Service → Bool) :
    (s.takeWhere select).2.Alike (u.takeWhere select).2 := by
  intro j
  rw [get_takeWhere, get_takeWhere]
  split
  · rfl
  · exact h j

end Alike

end Slots

/-! ## Hosts -/

section Hosts

variable {σ τ : Type}

/-- The same answer, and those who give it stay related. -/
def Matches {α : Type} (R : σ → τ → Prop) (x : α × σ) (y : α × τ) : Prop := y.1 = x.1 ∧ R x.2 y.2

theorem Matches.map {α β : Type} {S : σ → τ → Prop} {x : α × σ} {y : α × τ} (h : Matches S x y)
    (f : α → β) : Matches S (f x.1, x.2) (f y.1, y.2) :=
  ⟨congrArg f h.1, h.2⟩

/-- Hosts in related states give the same answers to the same calls, and are in related states
afterwards. -/
structure Bisimulation [Transceiver σ] [Application σ] [Transceiver τ] [Application τ]
    (R : σ → τ → Prop) : Prop where
  setMode {a : σ} {b : τ} (m : Mode) (h : R a b) :
    Matches R (Transceiver.setMode m a) (Transceiver.setMode m b)
  transfer {a : σ} {b : τ} (frame : Octets) (h : R a b) :
    Matches R (Transceiver.transfer frame a) (Transceiver.transfer frame b)
  poll {a : σ} {b : τ} (h : R a b) : Matches R (Transceiver.poll a) (Transceiver.poll b)
  cycle {a : σ} {b : τ} (h : R a b) : R (Application.cycle a) (Application.cycle b)
  output {a : σ} {b : τ} (data : Octets) (h : R a b) :
    Matches R (Application.output data a) (Application.output data b)
  control {a : σ} {b : τ} (code : Control) (h : R a b) :
    Matches R (Application.control code a) (Application.control code b)
  confirm {a : σ} {b : τ} (call : Confirmation) (outcome : Outcome) (h : R a b) :
    Matches R (Application.confirm call outcome a) (Application.confirm call outcome b)
  read {a : σ} {b : τ} (index : UInt16) (subindex : UInt8) (h : R a b) :
    Matches R (Application.read index subindex a) (Application.read index subindex b)
  write {a : σ} {b : τ} (index : UInt16) (subindex : UInt8) (value : Octets) (h : R a b) :
    Matches R (Application.write index subindex value a) (Application.write index subindex value b)

/-- A host agrees with itself. -/
theorem Bisimulation.refl [Transceiver σ] [Application σ] :
    Bisimulation (Eq : σ → σ → Prop) := by
  constructor <;> intros <;> subst_vars <;> first | rfl | exact ⟨rfl, rfl⟩

/-! ## The trace -/

/-- The same event a while later: only ticks have a time. -/
def Event.delay (lag : Nat) : Event → Event
  | ticked now => ticked (now + lag)
  | e => e

namespace Env

/-- The same environment a while later, with hosts in related states. -/
structure Lags (R : σ → τ → Prop) (lag : Nat) (e : Env σ) (f : Env τ) : Prop where
  device : f.device = e.device
  host : R e.host f.host
  trace : f.trace = e.trace.map (Event.delay lag)

namespace Lags

variable {R : σ → τ → Prop} {e : Env σ} {f : Env τ}

theorem answered (h : e.Lags R lag f) {a : σ} {b : τ} (related : R a b) {event event' : Event}
    (same : event' = event.delay lag) :
    (e.answered a event).Lags R lag (f.answered b event') := by
  refine ⟨h.device, related, ?_⟩
  change event' :: f.trace = event.delay lag :: e.trace.map (Event.delay lag)
  rw [same, h.trace]

theorem enter (h : e.Lags R lag f) {event event' : Event} (same : event' = event.delay lag) :
    (e.enter event).Lags R lag (f.enter event') := h.answered h.host same

theorem note (h : e.Lags R lag f) (m : Message) : (e.note m).Lags R lag (f.note m) :=
  h.enter (by rw [h.device]; rfl)

variable [Transceiver σ] [Application σ] [Transceiver τ] [Application τ]

theorem setMode (h : e.Lags R lag f) (agree : Bisimulation R) (m : Mode) :
    Matches (Lags R lag) (e.setMode m) (f.setMode m) := by
  obtain ⟨same, related⟩ := agree.setMode m h.host
  refine ⟨same, ?_⟩
  unfold Env.setMode
  dsimp only
  rw [same]
  exact (h.answered related rfl).note _

theorem transfer (h : e.Lags R lag f) (agree : Bisimulation R) (frame : Octets) :
    Matches (Lags R lag) (e.transfer frame) (f.transfer frame) := by
  obtain ⟨same, related⟩ := agree.transfer frame h.host
  refine ⟨same, ?_⟩
  unfold Env.transfer
  dsimp only
  rw [same]
  exact (h.answered related rfl).note _

theorem poll (h : e.Lags R lag f) (agree : Bisimulation R) :
    Matches (Lags R lag) e.poll f.poll := by
  obtain ⟨same, related⟩ := agree.poll h.host
  unfold Env.poll
  dsimp only
  rw [same]
  cases (Transceiver.poll e.host).1 with
  | none => exact ⟨rfl, h.answered related rfl⟩
  | some i => exact ⟨rfl, (h.answered related rfl).note _⟩

theorem cycle (h : e.Lags R lag f) (agree : Bisimulation R) : e.cycle.Lags R lag f.cycle :=
  h.answered (agree.cycle h.host) rfl

theorem offerOutput (h : e.Lags R lag f) (agree : Bisimulation R) (data : Octets) :
    Matches (Lags R lag) (e.offerOutput data) (f.offerOutput data) := by
  obtain ⟨same, related⟩ := agree.output data h.host
  exact ⟨same, h.answered related (congrArg _ same)⟩

theorem offerControl (h : e.Lags R lag f) (agree : Bisimulation R) (code : Control) :
    Matches (Lags R lag) (e.offerControl code) (f.offerControl code) := by
  obtain ⟨same, related⟩ := agree.control code h.host
  exact ⟨same, h.answered related (congrArg _ same)⟩

theorem confirm (h : e.Lags R lag f) (agree : Bisimulation R) (kind : Service)
    (outcome : Outcome) : (e.confirm kind outcome).Lags R lag (f.confirm kind outcome) := by
  obtain ⟨call, rfl⟩ := kind.exists_confirmation
  obtain ⟨same, related⟩ := agree.confirm call outcome h.host
  rw [confirm_kind, confirm_kind]
  unfold tell
  dsimp only
  rw [same]
  split
  · exact (h.answered related rfl).note _
  · exact h.answered related rfl

/-- Confirmations one after the other are alike if they are of the same kinds. -/
theorem foldl_confirm (h : e.Lags R lag f) (agree : Bisimulation R) (cause : Failure)
    {xs ys : List AnyTicket} (same : ys.map AnyTicket.kind = xs.map AnyTicket.kind) :
    (xs.foldl (fun env t => env.confirm t.kind (.error cause)) e).Lags R lag
      (ys.foldl (fun env t => env.confirm t.kind (.error cause)) f) := by
  induction xs generalizing ys e f with
  | nil =>
    obtain rfl := List.map_eq_nil_iff.1 same
    exact h
  | cons x xs ih =>
    obtain ⟨y, ys, rfl, kind, rest⟩ := List.map_eq_cons_iff.1 same
    rw [List.foldl_cons, List.foldl_cons, kind]
    exact ih (h.confirm agree x.kind _) rest

theorem read (h : e.Lags R lag f) (agree : Bisimulation R) (index : UInt16) (subindex : UInt8) :
    Matches (Lags R lag) (e.read index subindex) (f.read index subindex) := by
  obtain ⟨same, related⟩ := agree.read index subindex h.host
  exact ⟨same, h.answered related (congrArg _ same)⟩

theorem write (h : e.Lags R lag f) (agree : Bisimulation R) (index : UInt16) (subindex : UInt8)
    (value : Octets) :
    Matches (Lags R lag) (e.write index subindex value) (f.write index subindex value) := by
  obtain ⟨same, related⟩ := agree.write index subindex value h.host
  exact ⟨same, h.answered related (congrArg _ same)⟩

end Lags

end Env

end Hosts

/-! ## Devices -/

namespace Device

/-- The same device a while later, with requests that were made at some times. -/
def delay (lag : Nat) (slots : Slots) (last : Nat) (d : Device) : Device :=
  { d with line := d.line.delay lag, slots, lastTick := last }

/-- The second device is the first one a while later. -/
inductive Lags (lag : Nat) (d : Device) : Device → Prop
  | intro {slots : Slots} {last : Nat} (alike : d.slots.Alike slots) :
      Lags lag d (d.delay lag slots last)

namespace Lags

variable {d u : Device}

theorem alike (h : d.Lags lag u) : d.slots.Alike u.slots := by
  cases h
  assumption

theorem config (h : d.Lags lag u) : u.config = d.config := by cases h; rfl

theorem link (h : d.Lags lag u) : u.link = d.link := by cases h; rfl

theorem line (h : d.Lags lag u) : u.line = d.line.delay lag := by cases h; rfl

theorem images (h : d.Lags lag u) : u.images = d.images := by cases h; rfl

theorem store (h : d.Lags lag u) : u.store = d.store := by cases h; rfl

theorem retries (h : d.Lags lag u) : u.retries = d.retries := by cases h; rfl

theorem tally (h : d.Lags lag u) : u.tally = d.tally := by cases h; rfl

theorem cycles (h : d.Lags lag u) : u.cycles = d.cycles := by cases h; rfl

theorem inFlight (h : d.Lags lag u) : u.inFlight = d.inFlight := by cases h; rfl

/-- What is done to the device alike stays alike, if it leaves the requests alone. -/
theorem update (h : d.Lags lag u) {f g : Device → Device}
    (natural : ∀ slots last, g (d.delay lag slots last) = (f d).delay lag slots last)
    (slots : (f d).slots = d.slots) : (f d).Lags lag (g u) := by
  cases h with
  | intro alike =>
    rw [natural]
    refine .intro ?_
    rwa [slots]

theorem limits (h : d.Lags lag u) (m : Mode) : u.limits m = d.limits m := by cases h; rfl

theorem withLine (h : d.Lags lag u) {l m : Line} (same : m = l.delay lag) :
    Lags lag { d with line := l } { u with line := m } := by
  subst same
  cases h with
  | intro alike => exact .intro alike

theorem withImages (h : d.Lags lag u) (i : Images) :
    Lags lag { d with images := i } { u with images := i } := by
  cases h with
  | intro alike => exact .intro alike

theorem withSlots (h : d.Lags lag u) {s v : Slots} (alike : s.Alike v) :
    Lags lag { d with slots := s } { u with slots := v } := by
  cases h with
  | intro => exact .intro alike

end Lags

end Device

end Sdci
