import Sdci.Proofs.Confirmation
import Sdci.Proofs.Conversation
import Sdci.Proofs.Deadlines

/-! # The protocol of parameter accesses

A valid frame of the master may bring an access. The device serves it unless the answer to an
earlier one is still open, and that answer may be just what the frame has acknowledged.

* `Device.Closing`: a valid answer of the master, and what the device makes of it.
* `Device.Move.accessless`: while an answer is open that does not end, no access is served.
* `Session.Closes`: the ticks in which a valid frame ends an exchange.
* `Session.Reach.access_protocol`: the protocol in every run.
-/

namespace Sdci
set_option autoImplicit false

open Trace

theorem Confirms.accessless {outcome : Outcome} {ks : List Service} {es : Trace}
    (h : Confirms outcome ks es) : es.Lacks Event.isAccess := by
  intro e mem
  obtain ⟨_, _, rfl⟩ := h.mem mem
  rfl

namespace Device

/-! ## A valid answer -/

/-- A valid answer, and what the device makes of it. -/
inductive Closing (d : Device) (mode : Mode) (frame : Octets) (master : MasterFrame) :
    Trace → Device → Prop
  | intro {v : Device} {i₁ i₂ : Images} {slots : Slots} {es₁ es₂ es₃ es₄ : Trace}
      (settles : Settles (d.succeeded mode master.output) es₁ v)
      (delivers : Delivers master.output v.images es₂ i₁)
      (signals : Signals master.control i₁ es₃ i₂)
      (serves : Serves d.lastTick v.slots master.access es₄ slots) :
      Closing d mode frame master
        (.cycled :: (es₄ ++ (es₃ ++ (es₂ ++ (es₁ ++
          [.linkEvent d.link .transferSucceeded, .polled (some (.transferComplete frame))])))))
        { v with images := i₂, slots }

namespace Closing

variable {d u : Device} {mode : Mode} {frame : Octets} {master : MasterFrame} {es : Trace}

theorem line_eq (h : d.Closing mode frame master es u) :
    u.line = (d.succeeded mode master.output).line := by
  cases h with
  | intro settles =>
    rw [settles.eq]

theorem spares (h : d.Closing mode frame master es u) (isOpen : d.slots.isOpen .access = true)
    (other : d.riding ≠ some .access) :
    es.Quiet ∧ u.slots.request? .access = d.slots.request? .access := by
  cases h with
  | intro settles delivers signals serves =>
    obtain ⟨r, request⟩ := Slots.exists_request?_of_isOpen isOpen
    obtain ⟨settled, kept⟩ := settles.spares other
    obtain ⟨rfl, rfl⟩ := serves.spares (Slots.isOpen_of_request? (kept.trans request))
    exact ⟨by simp [settled, delivers.trace_quiet, signals.trace_quiet], kept⟩

theorem confirms (h : d.Closing mode frame master es u) (own : d.riding = some .access)
    {answer : Answer} (request : d.slots.request? .access = some ⟨.access, answer⟩) :
    (.access, answer.outcome) ∈ es.confirmations := by
  cases h with
  | intro settles delivers signals serves =>
    cases settles with
    | cyclic none => cases none.symm.trans own
    | stray rides closed =>
      obtain rfl := Option.some.inj (own.symm.trans rides)
      cases request.symm.trans closed
    | carried a rides ticket =>
      obtain rfl := Option.some.inj (own.symm.trans rides)
      obtain rfl := Option.some.inj (request.symm.trans ticket)
      exact List.mem_filterMap.2 ⟨.confirmed .access answer.outcome a, by simp [completion], rfl⟩

end Closing

/-- A valid frame with no more output than was negotiated ends the exchange that it answers. -/
theorem Move.closes {d u : Device} {es : Trace} {mode : Mode} {frame : Octets}
    {master : MasterFrame} (h : Move .poll d es u) (link : d.link = .transferring mode)
    (first : es.getLast? = some (.polled (some (.transferComplete frame))))
    (decode : MasterFrame.decode frame = .ok master)
    (fits : master.output.length ≤ d.images.output.maxLength) :
    d.Closing mode frame master es u := by
  have safe {cause : Failure} {e : Event} (breaks : d.Breaks .poll cause e)
      (same : es.getLast? = some e) : False := by
    obtain rfl := Option.some.inj (first.symm.trans same)
    exact not_breaks_answer decode fits breaks
  cases h with
  | silence => cases first
  | ignore useless =>
    cases first
    rw [link] at useless
    cases useless
  | establish switching => cases link.symm.trans switching
  | exchange link' decode' fits' settles delivers signals serves =>
    rename_i v mode' frame' master' i₁ i₂ slots es₁ es₂ es₃ es₄
    simp only [← List.append_assoc, ← List.cons_append, List.getLast?_append,
      List.getLast?_cons_cons, List.getLast?_singleton, Option.some_or] at first
    cases first
    obtain rfl := Link.transferring.inj (link.symm.trans link')
    obtain rfl := Except.ok.inj (decode.symm.trans decode')
    exact .intro settles delivers signals serves
  | retry link' mishap =>
    cases mishap with
    | garbled decode' =>
      cases first
      cases decode.symm.trans decode'
    | spoilt => cases first
  | exhaust link' mishap left failed =>
    exact (safe (.exhausted link' mishap left) (by simp)).elim
  | fault fatal failed => exact (safe (.fatal fatal) (by simp)).elim

/-- After a valid answer only the supervision of cycles runs, and it has just begun. -/
theorem quiet_of_closed {c : Config} {d u : Device} {es t : Trace} {mode : Mode} {output : Octets}
    (run : Run c d t) (run' : Run c u (es ++ t)) (link : d.link = .transferring mode)
    (line : u.line = (d.succeeded mode output).line) :
    u.line.timers.due? d.lastTick = none := by
  refine Timers.due?_eq_none_iff.2 fun k r get => ?_
  have wanted := (run'.supervised.running get).2
  have config : u.config = d.config := run'.config_eq.trans run.config_eq.symm
  rw [line] at get
  obtain ⟨rfl, rfl⟩ := run.supervised.renewed (fun i watch => by
    rw [link] at watch
    cases i <;> first | exact .inl rfl | exact .inr rfl | cases watch) get
  have pos : 0 < d.config.maxCycleTime.toNat := by
    rw [← config]
    exact Nat.pos_of_ne_zero fun zero => wanted rfl (UInt32.toNat_inj.1 zero)
  exact Nat.lt_add_of_pos_right pos

/-! ## Accesses of a whole phase -/

/-- While an answer is open that does not end, no access is served. -/
theorem Move.accessless {p : Phase} {d u : Device} {es : Trace} (h : Move p d es u)
    (busy : p = .poll → d.slots.isOpen .access = true ∧ d.riding ≠ some .access) :
    es.Lacks Event.isAccess := by
  cases h with
  | establish link requested lost done =>
    exact lacks_append.2 ⟨lacks_append.2 ⟨done.accessless, lost.accessless⟩,
      by simp [Event.isAccess]⟩
  | exchange link decode fits settles delivers signals serves =>
    rename_i v mode frame master i₁ i₂ slots es₁ es₂ es₃ es₄
    obtain ⟨isOpen, other⟩ := busy rfl
    have closing : d.Closing mode frame master _ _ := .intro settles delivers signals serves
    intro e mem
    have quiet := (closing.spares isOpen other).1 e mem
    cases e <;> first | rfl | cases quiet
  | retry link mishap => cases mishap <;> simp [Event.isAccess]
  | exhaust link mishap left failed =>
    refine lacks_append.2 ⟨failed.accessless, ?_⟩
    cases mishap <;> simp [Event.isAccess]
  | fault fatal failed =>
    refine lacks_append.2 ⟨failed.accessless, ?_⟩
    cases fatal <;> simp [Event.isAccess]
  | switch quiet idle pending failed => simpa [Event.isAccess] using failed.accessless
  | refuseMode a quiet idle pending failed => simpa [Event.isAccess] using failed.accessless
  | _ => simp [Event.isAccess]

theorem Moves.accessless {p : Phase} {d u : Device} {es : Trace} (h : Moves p d es u)
    (other : p ≠ .poll) : es.Lacks Event.isAccess := by
  induction h with
  | refl => exact lacks_nil
  | tail before last ih =>
    exact lacks_append.2 ⟨last.accessless fun poll => absurd poll other, ih⟩

theorem Moves.spares_work {c : Config} {d u : Device} {es t : Trace} (run : Run c d t)
    (h : Moves .work d es u) :
    es.Quiet ∧ u.slots.request? .access = d.slots.request? .access := by
  induction h with
  | refl => exact ⟨lacks_nil, rfl⟩
  | tail before last ih =>
    obtain ⟨quiet, kept⟩ := ih
    obtain ⟨quiet', kept'⟩ := last.spares_work (run.moves before).housed
    exact ⟨lacks_append.2 ⟨quiet', quiet⟩, kept'.trans kept⟩

end Device

namespace Session

open Device

variable {σ : Type} [Transceiver σ] [Application σ] {s : Session σ} {now : Nat}
  {master : MasterFrame}

/-- In the tick of `s` at `now` a valid frame of the master ends the exchange. -/
inductive Closes (s : Session σ) (now : Nat) (master : MasterFrame) : Prop
  | valid {mode : Mode} {frame : Octets} (link : s.device.link = .transferring mode)
      (report : (s.tick now).env.trace.indication = some (.transferComplete frame))
      (decode : MasterFrame.decode frame = .ok master)
      (fits : master.output.length ≤ s.device.images.output.maxLength)

theorem accesses_tick (isOpen : s.device.slots.isOpen .access = true)
    (other : s.device.riding ≠ some .access) (now : Nat) :
    (s.tick now).env.trace.countP Event.isAccess = s.env.trace.countP Event.isAccess := by
  obtain ⟨⟨es₁, entered, move₁⟩, ⟨es₂, polled, move₂⟩, ⟨es₃, expired, moves₃⟩,
    ⟨es₄, worked, moves₄⟩⟩ := s.performs_tick now
  have polls : es₂.Lacks Event.isAccess := move₂.accessless fun _ => ⟨isOpen, other⟩
  have none : (es₄ ++ (es₃ ++ (es₂ ++ es₁))).Lacks Event.isAccess :=
    lacks_append.2 ⟨moves₄.accessless nofun, lacks_append.2 ⟨moves₃.accessless nofun,
      lacks_append.2 ⟨polls, move₁.accessless nofun⟩⟩⟩
  have trace : (s.tick now).env.trace.bare =
      (es₄ ++ (es₃ ++ (es₂ ++ es₁))) ++ s.env.trace.bare := by
    rw [worked, expired, polled, entered]
    simp
  have zero : (es₄ ++ (es₃ ++ (es₂ ++ es₁))).countP Event.isAccess = 0 :=
    List.countP_eq_zero.2 fun e mem => by rw [none e mem]; exact Bool.false_ne_true
  rw [countP_of_bare Event.isAccess_of_isRemark trace, zero, Nat.zero_add]

theorem Closes.polls (h : s.Closes now master) :
    ∃ mode frame es, (s.enterTick now).device.Closing mode frame master es
        ((s.enterTick now).poll now).device ∧
      ((s.enterTick now).poll now).env.trace.bare = es ++ .ticked now :: s.env.trace.bare ∧
      (s.enterTick now).device.link = .transferring mode := by
  obtain ⟨-, ⟨es, polled, move⟩, -, -⟩ := s.performs_tick now
  obtain ⟨link, report, decode, fits⟩ := h
  rename_i mode frame
  have first := move.first_poll (s.enterTick now).env.trace.bare
  rw [← polled, indication_bare, ← indication_tick, report] at first
  exact ⟨mode, frame, es, move.closes link first decode fits, polled, link⟩

/-- The rest of such a tick is dispatch work. -/
theorem Closes.works {c : Config} (h : s.Closes now master)
    (run : Run c s.device s.env.trace.bare) :
    ∃ fs, Moves .work ((s.enterTick now).poll now).device fs (s.tick now).device ∧
      (s.tick now).env.trace.bare = fs ++ ((s.enterTick now).poll now).env.trace.bare := by
  obtain ⟨entered, polled, -, worked⟩ := s.performs_tick now
  obtain ⟨mode, frame, es, closing, trace, link⟩ := h.polls
  have run₁ := entered.performs.run run
  have run₂ := polled.performs.run run₁
  rw [trace] at run₂
  have quiet : ((s.enterTick now).poll now).device.line.timers.due? now = none :=
    quiet_of_closed run₁ run₂ link closing.line_eq
  rw [expireTimers_of_quiet quiet] at worked
  obtain ⟨fs, told, moves⟩ := worked
  exact ⟨fs, moves, told⟩

/-- The moves of such a tick. -/
theorem Closes.moves {c : Config} (h : s.Closes now master)
    (run : Run c s.device s.env.trace.bare) :
    ∃ mode frame es fs, (s.enterTick now).device.Closing mode frame master es
        ((s.enterTick now).poll now).device ∧
      Moves .work ((s.enterTick now).poll now).device fs (s.tick now).device ∧
      Run c ((s.enterTick now).poll now).device (es ++ .ticked now :: s.env.trace.bare) ∧
      (s.tick now).env.trace.bare = fs ++ (es ++ .ticked now :: s.env.trace.bare) := by
  obtain ⟨mode, frame, es, closing, trace, -⟩ := h.polls
  obtain ⟨fs, work, told⟩ := h.works run
  obtain ⟨entered, polled, -, -⟩ := s.performs_tick now
  have run' := polled.performs.run (entered.performs.run run)
  rw [trace] at run' told
  exact ⟨mode, frame, es, fs, closing, work, run', told⟩

/-- An access that finds an answer open is passed over. -/
theorem Closes.spares (h : s.Closes now master) (reach : Reach s)
    (isOpen : s.device.slots.isOpen .access = true) (other : s.device.riding ≠ some .access) :
    (s.tick now).env.trace.accessCalls = s.env.trace.accessCalls ∧
      (s.tick now).device.slots.request? .access = s.device.slots.request? .access := by
  obtain ⟨c, -, run⟩ := reach.run
  obtain ⟨mode, frame, es, fs, closing, work, run', trace⟩ := h.moves run
  obtain ⟨quiet, kept⟩ := closing.spares isOpen other
  obtain ⟨quiet', kept'⟩ := work.spares_work run'
  have silent {es : Trace} (h : es.Quiet) : es.accessCalls = [] :=
    List.filterMap_eq_nil_iff.2 fun e mem => Option.isSome_eq_false_iff.1 (h e mem) |>
      Option.isNone_iff_eq_none.1
  refine ⟨?_, kept'.trans kept⟩
  rw [← accessCalls_bare, trace, accessCalls, List.filterMap_append, List.filterMap_append]
  have none := silent quiet
  have none' := silent quiet'
  rw [accessCalls] at none none'
  rw [none, none', ← accessCalls_bare]
  rfl

/-- A valid answer to the frame that carried the open answer confirms it with its result. -/
theorem Closes.confirms (h : s.Closes now master) (reach : Reach s)
    (own : s.device.riding = some .access) :
    ∃ access done, s.env.trace.unanswered = some access ∧
      (s.tick now).env.trace.confirmations = done ++ s.env.trace.confirmations ∧
      (.access, access.result) ∈ done := by
  obtain ⟨c, -, run⟩ := reach.run
  obtain ⟨mode, frame, es, fs, closing, -, -, trace⟩ := h.moves run
  obtain ⟨r, request⟩ := Slots.exists_request?_of_isOpen (run.booked.isOpen_of_riding own)
  obtain ⟨answer, access, rfl, waits, -, result⟩ := run.converses.answer r request
  have mem := closing.confirms own request
  rw [unanswered_bare] at waits
  refine ⟨access, fs.confirmations ++ es.confirmations, waits, ?_, ?_⟩
  · rw [← confirmations_bare, trace, confirmations_append, confirmations_append,
      List.append_assoc, ← confirmations_bare s.env.trace]
    rfl
  · rw [← result]
    exact List.mem_append_right _ mem

/-- In every run accesses and the ends of their answers take turns, and an access comes first. While
an answer is open that does not ride on the frame in flight, there is no access, and a valid answer
of the master leaves it as it is; an answer that rides is confirmed with its result. The master sees
no other answer than the open one, and the host is told the result of that very access if a valid
exchange of its frame is dealt with, and otherwise why the answer is lost. -/
theorem Reach.access_protocol (h : Reach s) :
    (s.env.trace.accessCalls.IsChain (· ≠ ·) ∧
      ∀ first, s.env.trace.accessCalls.getLast? = some first → first = true) ∧
    (∀ now, .access ∈ s.outstanding → s.device.riding ≠ some .access →
      (s.tick now).env.trace.countP Event.isAccess = s.env.trace.countP Event.isAccess) ∧
    (∀ now master, s.Closes now master → .access ∈ s.outstanding →
      (s.device.riding ≠ some .access →
        (s.tick now).env.trace.accessCalls = s.env.trace.accessCalls ∧
          (s.tick now).device.slots.request? .access = s.device.slots.request? .access) ∧
      (s.device.riding = some .access →
        ∃ access done, s.env.trace.unanswered = some access ∧
          (s.tick now).env.trace.confirmations = done ++ s.env.trace.confirmations ∧
          (.access, access.result) ∈ done)) ∧
    (∀ (before : Trace) payload accepted,
      .transferred (DeviceFrame.service .access payload).encode accepted :: before <:+
        s.env.trace →
      ∃ access, before.unanswered = some access ∧ payload = access.octets) ∧
    ∀ (before : Trace) outcome acknowledged,
      .confirmed .access outcome acknowledged :: before <:+ s.env.trace →
      ∃ access, before.unanswered = some access ∧
        ((before.completing = true ∧ outcome = access.result ∧
            before.sent = some (DeviceFrame.service .access access.octets).encode) ∨
          ∃ cause, before.Loses cause ∧ outcome = .error cause) := by
  obtain ⟨c, -, run⟩ := h.run
  have open' : .access ∈ s.outstanding → s.device.slots.isOpen .access = true := mem_openKinds.1
  have past {e : Event} {before : Trace} (own : e.isRemark = false)
      (suffix : e :: before <:+ s.env.trace) : e :: before.bare <:+ s.env.trace.bare := by
    have kept : bare (e :: before) <:+ s.env.trace.bare := suffix.filter _
    rwa [bare_cons own] at kept
  refine ⟨?_, fun now isOpen other => accesses_tick (open' isOpen) other now,
    fun now master closes isOpen => ⟨closes.spares h (open' isOpen), closes.confirms h⟩,
    fun before payload accepted offer => ?_, fun before outcome a ended => ?_⟩
  · rw [← accessCalls_bare]
    exact run.converses.courteous.alternates
  · rw [← unanswered_bare]
    exact run.answers (past rfl offer)
  · have fits := run.converses.courteous _ _ (past rfl ended)
    simp only [Event.Fits, unanswered_bare, (completions_bare before).1, sent_bare] at fits
    refine fits.imp fun access fit => ⟨fit.1, fit.2.imp_right ?_⟩
    rintro ⟨cause, ⟨idle, lost⟩, same⟩
    rw [(completions_bare before).1] at idle
    rw [link_bare, blame_bare] at lost
    exact ⟨cause, ⟨idle, lost⟩, same⟩

/-- The master reads a parameter, and answers the frame that carries its value. -/
theorem access_protocol_linked :
    let s := (Bench.linked.mapHost fun b =>
      { wire := { b.wire with
          queue := [.transferComplete (MasterFrame.encode ⟨none, some (.read 16 0), []⟩)] }
        program := b.program.set 16 0 (.ok [7]) }).tick 3000
    Reach s ∧ s.device.riding = some .access ∧ s.Closes 4000 ⟨none, none, []⟩ ∧
      ∃ access done, s.env.trace.unanswered = some access ∧ access.octets = [0, 0, 16, 0, 7] ∧
        (s.tick 4000).env.trace.confirmations = done ++ s.env.trace.confirmations ∧
        (.access, .ok (some [7])) ∈ done := by
  intro s
  have reach : Reach s := (Bench.reach_linked.step (.mapHost ..)).tick 3000
  have rides : s.device.riding = some .access := by decide +kernel
  have isOpen : .access ∈ s.outstanding := by decide +kernel
  have link : s.device.link = .transferring .com1 := by decide +kernel
  have report : (s.tick 4000).env.trace.indication =
      some (.transferComplete (MasterFrame.encode ⟨none, none, []⟩)) := by decide +kernel
  have closes : s.Closes 4000 ⟨none, none, []⟩ :=
    .valid link report (by decide +kernel) (Nat.zero_le _)
  obtain ⟨-, -, serve, -⟩ := reach.access_protocol
  obtain ⟨access, done, waits, grown, mem⟩ := (serve 4000 _ closes isOpen).2 rides
  have served : s.env.trace.unanswered.map (fun e => (e.octets, e.result)) =
      some ([0, 0, 16, 0, 7], .ok (some [7])) := by decide +kernel
  rw [waits] at served
  obtain ⟨octets, result⟩ := Prod.mk.inj (Option.some.inj served)
  rw [result] at mem
  exact ⟨reach, rides, closes, access, done, waits, octets, grown, mem⟩

end Session

end Sdci
