import Sdci.Proofs.Run.Reach
import Sdci.Proofs.Slots

/-! # The moves of a device

Everything a device ever does, with the answers of its host left open: `Move` has one rule for each
thing that can happen to a device, with what it enters into the trace (latest first, remarks left
out) and the device it leaves.

* `Confirms`: requests are confirmed one after the other, each through the call of its own kind.
* `Mishap`, `Fatal`: what spoils one exchange, and what stops communication at once.
* `Settles`, `Delivers`, `Signals`, `Serves`: the parts of a valid exchange.
* `Move`, `Moves`, `Run`: one move, the moves of one phase, and all moves since the creation.

The time of a move is the time of the tick it belongs to, `Device.lastTick`.
-/

namespace Sdci
set_option autoImplicit false

/-! ## Confirmations -/

/-- The events `es` confirm requests of the kinds `ks`, in this order, with one outcome. -/
inductive Confirms (outcome : Outcome) : List Service → Trace → Prop
  | nil : Confirms outcome [] []
  | cons {kind : Service} {ks : List Service} {es : Trace} (acknowledged : Bool)
      (rest : Confirms outcome ks es) :
      Confirms outcome (kind :: ks) (es ++ [.confirmed kind outcome acknowledged])

theorem Confirms.mem {outcome : Outcome} {ks : List Service} {es : Trace} {e : Event}
    (h : Confirms outcome ks es) (mem : e ∈ es) :
    ∃ kind acknowledged, e = .confirmed kind outcome acknowledged := by
  induction h with
  | nil => cases mem
  | cons a rest ih =>
    rcases List.mem_append.1 mem with later | first
    · exact ih later
    · exact ⟨_, a, List.mem_singleton.1 first⟩

/-- The link states in which a timer has something to supervise. -/
def Timer.watches : Timer → Link → Bool
  | modeSwitch, .switching _ => true
  | transfer, .transferring _ => true
  | maxCycle, .active _ => true
  | maxCycle, .transferring _ => true
  | _, _ => false

/-- The link states in which an indication is of no use. -/
def Link.ignores : Link → Indication → Bool
  | switching _, .modeSwitched _ => false
  | transferring _, .transferComplete _ => false
  | transferring _, .transferFailed _ => false
  | _, .hardwareFault => false
  | _, _ => true

namespace Device

/-! ## The device after a move -/

theorem isOpen_of_admits {d : Device} {r : Request} (h : d.admits r = .ok ()) :
    d.slots.isOpen r.kind = false := by
  unfold admits at h
  split at h
  · cases h
  · rename_i free
    exact Bool.eq_false_iff.2 free

/-- No communication and no open request. -/
def faulted (d : Device) : Device :=
  { d.abandon with tally := d.tally.faulted, link := .fault, slots := {} }

/-- The supervision of cycles begins anew, if the configuration asks for it. -/
def supervise (d : Device) (t : Timers) : Timers :=
  if d.config.maxCycleTime = 0 then t
  else t.start .maxCycle d.config.maxCycleTime d.lastTick

/-- A confirmed mode. Requests that need a link end with the link. -/
def established (d : Device) (mode : Mode) : Device :=
  { d with
    link := if mode.active then .active mode else .inactive
    line :=
      { mode
        timers := if mode.active then d.supervise (d.line.timers.stop .modeSwitch)
          else d.line.timers.stop .modeSwitch }
    images := d.images.setLimits (d.limits mode).1 (d.limits mode).2
    retries := d.retries.reset
    slots := Slots.close
      (if mode.active then d.slots else (d.slots.takeWhere Service.needsLink).2) .setMode }

/-- A failed exchange whose frame is kept. -/
def failed (d : Device) (mode : Mode) (cause : Failure) : Device :=
  { d with
    link := .active mode
    line := d.line.stopTimer .transfer
    tally := d.tally.failed cause
    retries := d.retries.fail }

def retried (d : Device) (mode : Mode) (cause : Failure) : Device :=
  { d.failed mode cause with tally := (d.tally.failed cause).retried }

/-- A valid exchange, its contents not yet handed on. -/
def succeeded (d : Device) (mode : Mode) (output : Octets) : Device :=
  { d with
    link := .active mode
    line := { d.line with timers := d.supervise (d.line.timers.stop .transfer) }
    retries := d.retries.reset
    images := { d.images with input := d.images.input.validate true }
    cycles := d.cycles.received output }

/-- How a request ends that rode on an answered frame, and what it leaves in the device. -/
def completion (d : Device) : Request → Outcome × Device
  | ⟨.input, data⟩ =>
    match d.images.input.store data with
    | .ok input => (.ok none, { d with images := { d.images with input } })
    | .error cause => (.error cause, d)
  | ⟨.event, _⟩ => (.ok none, d)
  | ⟨.access, answer⟩ => (answer.outcome, d)
  | request => ((d.store.complete request).1, { d with store := (d.store.complete request).2 })

theorem completion_input_ok {d : Device} {data : Octets} {input : Image}
    (stored : d.images.input.store data = .ok input) :
    d.completion ⟨.input, data⟩ = (.ok none, { d with images := { d.images with input } }) := by
  rw [completion, stored]

theorem completion_input_error {d : Device} {data : Octets} {cause : Failure}
    (unstored : d.images.input.store data = .error cause) :
    d.completion ⟨.input, data⟩ = (.error cause, d) := by
  rw [completion, unstored]

/-- Completing a request touches the input data and the parameters only. -/
theorem completion_eq (d : Device) (r : Request) :
    (d.completion r).2 =
      { d with
        images := { d.images with input := (d.completion r).2.images.input }
        store := (d.completion r).2.store } := by
  unfold completion
  split
  · split <;> rfl
  all_goals rfl

/-- The kinds of requests that a new link does not take over from a fault. -/
def leftover (kind : Service) : Bool := kind != .setMode && kind != .getMode

/-- The requests with which a mode switch starts. -/
def survivors (d : Device) : Slots :=
  if d.link = .fault then (d.slots.takeWhere leftover).2 else d.slots

theorem isOpen_survivors {d : Device} {ticket : Ticket .setMode}
    (pending : d.slots.pending .setMode = some ticket) : d.survivors.isOpen .setMode = true := by
  have isOpen : d.slots.isOpen .setMode = true := Slots.isOpen_of_pending pending
  unfold survivors
  split
  · rw [Slots.isOpen_takeWhere, isOpen]
    rfl
  · exact isOpen

/-- The requests that a mode switch ends before it starts. -/
def leftovers (d : Device) : List Service :=
  if d.link = .fault then d.slots.among (Service.all.filter leftover) else []

/-- An accepted mode switch. -/
def switched (d : Device) (target : Mode) : Device :=
  { d.abandon with
    link := .switching target
    line :=
      { d.line with
        requested := some target
        timers := Timers.start {} .modeSwitch d.config.modeSwitchTimeout d.lastTick }
    slots := d.survivors.requeue.mark .setMode true }

theorem isOpen_of_tooLong {d : Device} {length : Nat} {cause : Failure}
    (h : d.choose = .tooLong length cause) : d.slots.isOpen .input = true := by
  unfold choose at h
  split at h
  · cases h
  · split at h
    · rename_i ticket pending
      exact Slots.isOpen_of_pending pending
    · split at h <;> cases h

/-- A frame that the transceiver took. -/
def launched (d : Device) (mode : Mode) (out : InFlight) : Device :=
  { d.launch out with
    link := .transferring mode
    line := d.line.restartTimer .transfer d.config.transferTimeout d.lastTick }

theorem slots_launched (d : Device) (mode : Mode) (out : InFlight) :
    (d.launched mode out).slots =
      out.carries.elim d.slots fun kind => d.slots.mark kind true := by
  obtain ⟨frame, carries⟩ := out
  cases carries <;> rfl

theorem isOpen_launched (d : Device) (mode : Mode) (out : InFlight) (k : Service) :
    (d.launched mode out).slots.isOpen k = d.slots.isOpen k := by
  rw [slots_launched]
  cases out.carries with
  | none => rfl
  | some kind => exact Slots.isOpen_mark ..

/-! ## Causes -/

inductive Phase
  /-- A request, or the start of a tick. -/
  | call
  | poll
  | expiry
  | work

/-- What spoils an exchange but is worth another attempt, with the event that tells of it. -/
inductive Mishap (d : Device) : Phase → Failure → Event → Prop
  | garbled {frame : Octets} {cause : Failure} (decode : MasterFrame.decode frame = .error cause)
      (minor : cause.recoverable = true) :
      Mishap d .poll cause (.polled (some (.transferComplete frame)))
  | spoilt (fault : LineFault) :
      Mishap d .poll fault.failure (.polled (some (.transferFailed fault)))
  | unanswered (due : d.line.timers.due? d.lastTick = some .transfer) :
      Mishap d .expiry .timeout (.expired .transfer)

/-- What stops communication at once, with the event that tells of it. -/
inductive Fatal (d : Device) : Phase → Failure → Event → Prop
  | hardware : Fatal d .poll .hardware (.polled (some .hardwareFault))
  | wrongMode {target mode : Mode} (link : d.link = .switching target)
      (wrong : mode ≠ target ∨ d.line.requested ≠ some mode) :
      Fatal d .poll .protocol (.polled (some (.modeSwitched mode)))
  | malformed {mode : Mode} {frame : Octets} {cause : Failure} (link : d.link = .transferring mode)
      (decode : MasterFrame.decode frame = .error cause) (major : cause.recoverable = false) :
      Fatal d .poll cause (.polled (some (.transferComplete frame)))
  | oversized {mode : Mode} {frame : Octets} {master : MasterFrame}
      (link : d.link = .transferring mode) (decode : MasterFrame.decode frame = .ok master)
      (long : d.images.output.maxLength < master.output.length) :
      Fatal d .poll .overflow (.polled (some (.transferComplete frame)))
  | unsupervised {timer : Timer} (due : d.line.timers.due? d.lastTick = some timer)
      (watch : timer.watches d.link = true) (other : timer ≠ .transfer) :
      Fatal d .expiry .timeout (.expired timer)

end Device

/-! ## The parts of a valid exchange -/

/-- The frame in flight is dropped, and the request that rode on it is confirmed. -/
inductive Settles (d : Device) : Trace → Device → Prop
  | cyclic (none : d.inFlight.bind InFlight.carries = none) :
      Settles d [] { d with inFlight := Option.none }
  | stray {kind : Service} (some : d.inFlight.bind InFlight.carries = some kind)
      (closed : d.slots.request? kind = none) : Settles d [] { d with inFlight := none }
  | carried {kind : Service} {request : Request} (acknowledged : Bool)
      (some : d.inFlight.bind InFlight.carries = some kind)
      (ticket : d.slots.request? kind = Option.some request) :
      Settles d [.confirmed kind (d.completion request).1 acknowledged]
        { (d.completion request).2 with inFlight := none, slots := d.slots.close kind }

/-- What a settled exchange does not touch. -/
theorem Settles.eq {d u : Device} {es : Trace} (h : Settles d es u) :
    u =
      { d with
        images := { d.images with input := u.images.input }
        store := u.store
        slots := u.slots
        inFlight := none } := by
  cases h with
  | cyclic => rfl
  | stray => rfl
  | carried =>
    rename_i kind request a some ticket
    rw [d.completion_eq]

/-- Output data reach the application unless they are what it has already applied. -/
inductive Delivers (data : Octets) (i : Images) : Trace → Images → Prop
  | empty (empty : data = []) : Delivers data i [] i
  | unchanged (some : data ≠ []) (same : i.output.valid ∧ i.output.data = data) :
      Delivers data i [] { i with unconsumed := none }
  | applied (some : data ≠ []) (new : ¬(i.output.valid ∧ i.output.data = data)) :
      Delivers data i [.outputOffered data true]
        { i with output := { i.output with data, valid := true }, unconsumed := none }
  | rejected (some : data ≠ []) (new : ¬(i.output.valid ∧ i.output.data = data)) :
      Delivers data i [.outputOffered data false] { i with unconsumed := Option.some data }

/-- A new control code replaces a pending one, and a pending one is offered. -/
inductive Signals (received : Option Control) (i : Images) : Trace → Images → Prop
  | quiet (none : received.or i.control = none) : Signals received i [] i
  | taken {code : Control} (some : received.or i.control = some code) :
      Signals received i [.controlOffered code true] { i with control := none }
  | refused {code : Control} (some : received.or i.control = some code) :
      Signals received i [.controlOffered code false] { i with control := code }

/-- What the application answers to a parameter access, and the answer that goes to the master. -/
inductive Access.Answered : Access → Event → Answer → Prop
  | read (index : UInt16) (subindex : UInt8) (answer : Except Failure Octets) :
      Answered (.read index subindex) (.read index subindex answer)
        ⟨index, subindex,
          answer.bind fun value => if maxValue < value.length then .error .overflow else .ok value⟩
  | write (index : UInt16) (subindex : UInt8) (value : Octets) (answer : Except Failure Unit) :
      Answered (.write index subindex value) (.written index subindex value answer)
        ⟨index, subindex, answer.map fun _ => []⟩

/-- A parameter access is served unless an answer is still open. -/
inductive Serves (now : Nat) (slots : Slots) : Option Access → Trace → Slots → Prop
  | none : Serves now slots none [] slots
  | busy (access : Access) (isOpen : slots.isOpen .access = true) :
      Serves now slots (some access) [] slots
  | served {access : Access} {event : Event} {answer : Answer}
      (free : slots.isOpen .access = false) (answered : access.Answered event answer) :
      Serves now slots (some access) [event] (slots.place ⟨.access, answer⟩ now)

theorem Settles.mem {d u : Device} {es : Trace} {e : Event} (h : Settles d es u) (mem : e ∈ es) :
    ∃ kind outcome acknowledged, e = .confirmed kind outcome acknowledged := by
  cases h with
  | cyclic => cases mem
  | stray => cases mem
  | carried a => exact ⟨_, _, a, List.mem_singleton.1 mem⟩

theorem Delivers.mem {data : Octets} {i j : Images} {es : Trace} {e : Event}
    (h : Delivers data i es j) (mem : e ∈ es) : ∃ accepted, e = .outputOffered data accepted := by
  cases h with
  | empty => cases mem
  | unchanged => cases mem
  | applied => exact ⟨true, List.mem_singleton.1 mem⟩
  | rejected => exact ⟨false, List.mem_singleton.1 mem⟩

theorem Signals.mem {received : Option Control} {i j : Images} {es : Trace} {e : Event}
    (h : Signals received i es j) (mem : e ∈ es) :
    ∃ code accepted, e = .controlOffered code accepted := by
  cases h with
  | quiet => cases mem
  | taken => exact ⟨_, true, List.mem_singleton.1 mem⟩
  | refused => exact ⟨_, false, List.mem_singleton.1 mem⟩

theorem Serves.mem {now : Nat} {s t : Slots} {access : Option Access} {es : Trace} {e : Event}
    (h : Serves now s access es t) (mem : e ∈ es) :
    ∃ a : Access, ∃ answer, a.Answered e answer := by
  cases h with
  | none => cases mem
  | busy => cases mem
  | served free answered =>
    obtain rfl := List.mem_singleton.1 mem
    exact ⟨_, _, answered⟩

/-! ## Calls of the application -/

def Event.isUpcall : Event → Bool
  | cycled => true
  | outputOffered _ _ => true
  | controlOffered _ _ => true
  | confirmed _ _ _ => true
  | read _ _ _ => true
  | written _ _ _ _ => true
  | _ => false

def Trace.Upcalls (es : Trace) : Prop := ∀ e ∈ es, e.isUpcall = true

theorem Confirms.upcalls {outcome : Outcome} {ks : List Service} {es : Trace}
    (h : Confirms outcome ks es) : es.Upcalls := by
  intro e mem
  obtain ⟨_, _, rfl⟩ := h.mem mem
  rfl

theorem Settles.upcalls {d u : Device} {es : Trace} (h : Settles d es u) : es.Upcalls := by
  intro e mem
  obtain ⟨_, _, _, rfl⟩ := h.mem mem
  rfl

theorem Delivers.upcalls {data : Octets} {i j : Images} {es : Trace} (h : Delivers data i es j) :
    es.Upcalls := by
  intro e mem
  obtain ⟨_, rfl⟩ := h.mem mem
  rfl

theorem Signals.upcalls {received : Option Control} {i j : Images} {es : Trace}
    (h : Signals received i es j) : es.Upcalls := by
  intro e mem
  obtain ⟨_, _, rfl⟩ := h.mem mem
  rfl

theorem Serves.upcalls {now : Nat} {s t : Slots} {access : Option Access} {es : Trace}
    (h : Serves now s access es t) : es.Upcalls := by
  intro e mem
  obtain ⟨_, _, answered⟩ := h.mem mem
  cases answered <;> rfl

/-! ## Moves -/

namespace Device

/-- Nothing keeps the device from its dispatch work: no timer is due, and no mode is wanted. -/
structure Unhurried (d : Device) : Prop where
  quiet : d.line.timers.due? d.lastTick = none
  settled : d.slots.pending .setMode = none

inductive Move : Phase → Device → Trace → Device → Prop
  -- requests, and the start of a tick
  | grant {d : Device} {r : Request} (own : r.kind ≠ .access) (granted : d.admits r = .ok ()) :
      Move .call d [.requested r (.ok ())] { d with slots := d.slots.place r d.lastTick }
  | refuse {d : Device} {r : Request} {cause : Failure} (acknowledged : Bool)
      (own : r.kind ≠ .access) (refused : d.admits r = .error cause) :
      Move .call d
        [.confirmed r.kind (.error cause) acknowledged, .requested r (.error cause)] d
  | clock (d : Device) (now : Nat) : Move .call d [.ticked now] { d with lastTick := now }
  -- indications
  | silence (d : Device) : Move .poll d [.polled none] d
  | ignore {d : Device} {i : Indication} (useless : d.link.ignores i = true) :
      Move .poll d [.polled (some i)] d
  | establish {d : Device} {mode : Mode} {es₁ es₂ : Trace} (link : d.link = .switching mode)
      (requested : d.line.requested = some mode)
      (lost : Confirms (.error .notReady)
        (if mode.active then [] else d.slots.among (Service.all.filter Service.needsLink)) es₁)
      (done : Confirms (.ok (some [mode.code])) (d.slots.among [.setMode]) es₂) :
      Move .poll d
        (es₂ ++ es₁ ++
          [.linkEvent d.link (.modeConfirmed mode), .polled (some (.modeSwitched mode))])
        (d.established mode)
  | exchange {d u : Device} {mode : Mode} {frame : Octets} {master : MasterFrame}
      {i₁ i₂ : Images} {slots : Slots} {es₁ es₂ es₃ es₄ : Trace}
      (link : d.link = .transferring mode)
      (decode : MasterFrame.decode frame = .ok master)
      (fits : master.output.length ≤ d.images.output.maxLength)
      (settles : Settles (d.succeeded mode master.output) es₁ u)
      (delivers : Delivers master.output u.images es₂ i₁)
      (signals : Signals master.control i₁ es₃ i₂)
      (serves : Serves d.lastTick u.slots master.access es₄ slots) :
      Move .poll d
        (.cycled :: (es₄ ++ (es₃ ++ (es₂ ++ (es₁ ++
          [.linkEvent d.link .transferSucceeded, .polled (some (.transferComplete frame))])))))
        { u with images := i₂, slots }
  -- failures
  | retry {p : Phase} {d : Device} {mode : Mode} {cause : Failure} {e : Event}
      (link : d.link = .transferring mode) (mishap : Mishap d p cause e)
      (left : d.retries.left = true) :
      Move p d [.cycled, .linkEvent d.link .recoverableError, e] (d.retried mode cause)
  | exhaust {p : Phase} {d : Device} {mode : Mode} {cause : Failure} {e : Event} {es : Trace}
      (link : d.link = .transferring mode) (mishap : Mishap d p cause e)
      (left : d.retries.left = false) (failed : Confirms (.error cause) d.slots.openKinds es) :
      Move p d
        (es ++ [.linkEvent (.active mode) .fatalError, .cycled,
          .linkEvent d.link .recoverableError, e])
        (d.failed mode cause).faulted
  | fault {p : Phase} {d : Device} {cause : Failure} {e : Event} {es : Trace}
      (fatal : Fatal d p cause e) (failed : Confirms (.error cause) d.slots.openKinds es) :
      Move p d (es ++ [.linkEvent d.link .fatalError, e]) d.faulted
  | stale {d : Device} {timer : Timer} (id : DeviceId)
      (due : d.line.timers.due? d.lastTick = some timer) (idle : timer.watches d.link = false) :
      Move .expiry d [.noted ⟨id, .timerIgnored timer d.link⟩, .expired timer]
        { d with line := d.line.stopTimer timer }
  -- dispatch
  | answerMode {d : Device} (acknowledged : Bool) (quiet : d.line.timers.due? d.lastTick = none)
      (pending : d.slots.isPending .getMode = true) :
      Move .work d [.confirmed .getMode (.ok (some [d.line.mode.code])) acknowledged]
        { d with slots := d.slots.close .getMode }
  | switch {d : Device} {ticket : Ticket .setMode} {es : Trace}
      (quiet : d.line.timers.due? d.lastTick = none) (idle : d.link.idle = true)
      (pending : d.slots.pending .setMode = some ticket)
      (failed : Confirms (.error .notReady) d.leftovers es) :
      Move .work d
        (.linkEvent d.link (.modeSetAccepted ticket.payload) :: .modeSet ticket.payload true :: es)
        (d.switched ticket.payload)
  | refuseMode {d : Device} {ticket : Ticket .setMode} {es : Trace} (acknowledged : Bool)
      (quiet : d.line.timers.due? d.lastTick = none) (idle : d.link.idle = true)
      (pending : d.slots.pending .setMode = some ticket)
      (failed : Confirms (.error .notReady) d.leftovers es) :
      Move .work d
        (.confirmed .setMode (.error .badParameter) acknowledged ::
          .modeSet ticket.payload false :: es)
        { d with slots := d.survivors.close .setMode }
  | serve {d : Device} {request : Request} (acknowledged : Bool) (unhurried : d.Unhurried)
      (link : d.link = .inactive) (next : d.slots.nextOutOfCycle = some request) :
      Move .work d [.confirmed request.kind (d.store.serve request).1 acknowledged]
        { d with store := (d.store.serve request).2, slots := d.slots.close request.kind }
  | drop {d : Device} {mode : Mode} {length : Nat} {cause : Failure} (acknowledged : Bool)
      (unhurried : d.Unhurried) (link : d.link = .active mode)
      (long : d.choose = .tooLong length cause) :
      Move .work d [.confirmed .input (.error cause) acknowledged]
        { d with slots := d.slots.close .input }
  | launch {d : Device} {mode : Mode} {out : InFlight} (unhurried : d.Unhurried)
      (link : d.link = .active mode) (chosen : d.choose = .again out ∨ d.choose = .fresh out) :
      Move .work d [.linkEvent d.link .transferAccepted, .transferred out.frame.encode true]
        (d.launched mode out)
  | busy {d : Device} {mode : Mode} {out : InFlight} (unhurried : d.Unhurried)
      (link : d.link = .active mode) (chosen : d.choose = .again out ∨ d.choose = .fresh out) :
      Move .work d [.transferred out.frame.encode false] d

/-- Only the start of a tick sets the clock. -/
theorem Move.lastTick {p : Phase} {d u : Device} {es : Trace} (h : Move p d es u)
    (within : p ≠ .call) : u.lastTick = d.lastTick := by
  cases h with
  | exchange link decode fits settles => rw [settles.eq]; rfl
  | clock => exact absurd rfl within
  | _ => rfl

theorem Move.config_eq {p : Phase} {d u : Device} {es : Trace} (h : Move p d es u) :
    u.config = d.config := by
  cases h with
  | exchange link decode fits settles => rw [settles.eq]; rfl
  | _ => rfl

inductive Moves (p : Phase) : Device → Trace → Device → Prop
  | refl (d : Device) : Moves p d [] d
  | tail {d u v : Device} {es fs : Trace} (before : Moves p d es u) (last : Move p u fs v) :
      Moves p d (fs ++ es) v

theorem Moves.single {p : Phase} {d u : Device} {es : Trace} (h : Move p d es u) :
    Moves p d es u := by
  have := (Moves.refl d).tail h
  rwa [List.append_nil] at this

theorem Moves.trans {p : Phase} {d u v : Device} {es fs : Trace} (h₁ : Moves p d es u)
    (h₂ : Moves p u fs v) : Moves p d (fs ++ es) v := by
  induction h₂ with
  | refl => exact h₁
  | tail _ last ih =>
    rw [List.append_assoc]
    exact ih.tail last

theorem Moves.lastTick {p : Phase} {d u : Device} {es : Trace} (h : Moves p d es u)
    (within : p ≠ .call) : u.lastTick = d.lastTick := by
  induction h with
  | refl => rfl
  | tail _ last ih => rw [last.lastTick within, ih]

inductive Run (c : Config) : Device → Trace → Prop
  | start : Run c (.ofConfig c) []
  | move {p : Phase} {d u : Device} {es t : Trace} (before : Run c d t) (last : Move p d es u) :
      Run c u (es ++ t)

theorem Run.config_eq {c : Config} {d : Device} {t : Trace} (h : Run c d t) : d.config = c := by
  induction h with
  | start => rfl
  | move before last ih => rw [last.config_eq, ih]

theorem Run.moves {c : Config} {p : Phase} {d u : Device} {es t : Trace} (h : Run c d t)
    (h' : Moves p d es u) : Run c u (es ++ t) := by
  induction h' with
  | refl => exact h
  | tail _ last ih =>
    rw [List.append_assoc]
    exact ih.move last

end Device

end Sdci
