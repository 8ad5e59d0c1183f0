import Mathlib.Data.List.Chain
import Sdci.Proofs.Codec.Device
import Sdci.Proofs.Halt

/-! # Parameter accesses and their answers

A parameter access is served in one tick, and its answer travels in a later one, through retries,
mode switches and faults. The history tells at every moment which access is still to be answered.

* `Event.octets`, `Event.result`: what an access answers, on the wire and to the host.
* `Trace.unanswered`: the access whose answer has not ended yet.
* `Event.Fits`: what an access, or the end of an answer, owes to the history before it.
* `Device.Run.converses`: the history agrees with the answer that the device holds.
* `Device.Run.answers`: no other answer is offered to the transceiver.
* `Trace.Courteous.alternates`: accesses and the ends of their answers take turns.
-/

namespace Sdci
set_option autoImplicit false

namespace Event

/-- An access of the application, or the end of the answer to one. -/
@[simp] def accessCall? : Event → Option Bool
  | read _ _ _ | written _ _ _ _ => some true
  | confirmed .access _ _ => some false
  | _ => none

/-- The access whose answer is open after an event. -/
def opens? (e : Event) : Option (Option Event) :=
  e.accessCall?.map fun access => if access then some e else none

/-- The status of an access, its address and the value read. -/
def octets : Event → Octets
  | read index subindex (.ok value) =>
    if value.length ≤ 32 then 0 :: split16 index ++ subindex :: value
    else Failure.overflow.code :: split16 index ++ [subindex]
  | written index subindex _ (.ok _) => 0 :: split16 index ++ [subindex]
  | read index subindex (.error cause)
  | written index subindex _ (.error cause) => cause.code :: split16 index ++ [subindex]
  | _ => []

/-- How an access has gone. -/
def result : Event → Outcome
  | read _ _ (.ok value) =>
    if value.length ≤ 32 then .ok (if value = [] then none else some value)
    else .error .overflow
  | read _ _ (.error cause)
  | written _ _ _ (.error cause) => .error cause
  | _ => .ok none

@[simp] def isAccessCall (e : Event) : Bool := e.accessCall?.isSome

end Event

theorem Access.Answered.means {a : Access} {e : Event} {answer : Answer}
    (h : a.Answered e answer) :
    e.accessCall? = some true ∧ answer.encode = e.octets ∧ answer.outcome = e.result := by
  cases h with
  | read index subindex result =>
    refine ⟨rfl, ?_⟩
    cases result with
    | error cause => exact ⟨rfl, rfl⟩
    | ok value =>
      rw [Except.bind, Event.octets, Event.result]
      by_cases short : value.length ≤ 32
      · have fits : ¬ maxValue < value.length := Nat.not_lt.2 short
        rw [if_neg fits, if_pos short, if_pos short]
        cases value <;> exact ⟨rfl, rfl⟩
      · have long : maxValue < value.length := Nat.not_le.1 short
        rw [if_pos long, if_neg short, if_neg short]
        exact ⟨rfl, rfl⟩
  | write index subindex value result =>
    cases result <;> exact ⟨rfl, rfl, rfl⟩

namespace Trace

/-- The access whose answer has not ended yet. -/
def unanswered (t : Trace) : Option Event := (t.findSome? Event.opens?).join

/-- Why communication would stop now: the cause that the latest report or timer would give. -/
def blame (t : Trace) : Option Failure := t.findSome? Event.cause?

/-- The accesses and the ends of answers, latest first. -/
def accessCalls (t : Trace) : List Bool := t.filterMap Event.accessCall?

/-- An answer that ends now has not been delivered: communication has stopped, or the line has been
switched to SIO. -/
structure Loses (t : Trace) (cause : Failure) : Prop where
  idle : t.completing = false
  lost : t.link = .fault ∧ t.blame = some cause ∨ t.link = .inactive ∧ cause = .notReady

end Trace

/-- What a call of the application owes to the history before it. -/
def Event.Fits (before : Trace) : Event → Prop
  | read _ _ _ | written _ _ _ _ => before.unanswered = none
  | confirmed .access outcome _ =>
    ∃ access, before.unanswered = some access ∧
      ((before.completing = true ∧ outcome = access.result ∧
          before.sent = some (DeviceFrame.service .access access.octets).encode) ∨
        ∃ cause, before.Loses cause ∧ outcome = .error cause)
  | _ => True

/-! ## Histories of the protocol -/

namespace Event

variable {e : Event} {before : Trace}

theorem opens?_eq_none (h : e.isAccessCall = false) : e.opens? = none :=
  Option.map_eq_none_iff.2 (Option.isSome_eq_false_iff.1 h |> Option.isNone_iff_eq_none.1)

theorem isAccessCall_confirmed {kind : Service} (other : kind ≠ .access) (outcome : Outcome)
    (a : Bool) : (confirmed kind outcome a).isAccessCall = false := by
  cases kind <;> first | rfl | exact absurd rfl other

theorem fits_of_quiet (h : e.isAccessCall = false) : e.Fits before := by
  cases e with
  | confirmed kind outcome a => cases kind <;> first | exact trivial | cases h
  | read | written => cases h
  | _ => trivial

end Event

namespace Trace

variable {es t : Trace}

/-- A history without an access and the end of one. -/
abbrev Quiet (es : Trace) : Prop := es.Lacks Event.isAccessCall

theorem unanswered_cons (e : Event) (t : Trace) :
    unanswered (e :: t) = e.opens?.elim (unanswered t) id := by
  unfold unanswered
  rw [List.findSome?_cons]
  cases e.opens? <;> rfl

theorem Quiet.unanswered (h : es.Quiet) (t : Trace) : unanswered (es ++ t) = unanswered t := by
  rw [Trace.unanswered, findSome_append (fun e mem => Event.opens?_eq_none (h e mem)) t,
    Trace.unanswered]

theorem unanswered_bare (t : Trace) : unanswered (bare t) = unanswered t := by
  have silent (e : Event) (remark : e.isRemark = true) : e.opens? = none := by
    cases e <;> first | rfl | cases remark
  rw [unanswered, findSome_bare_of silent, unanswered]

theorem blame_bare (t : Trace) : blame (bare t) = blame t :=
  findSome_bare_of (fun e remark => by cases e <;> first | rfl | cases remark) t

/-- Every event of a history keeps to the protocol. -/
def Courteous (t : Trace) : Prop := ∀ e before, e :: before <:+ t → e.Fits before

theorem courteous_nil : Courteous [] := by
  intro e before suffix
  cases List.suffix_nil.1 suffix

theorem Courteous.cons (h : t.Courteous) {e : Event} (fits : e.Fits t) : Courteous (e :: t) := by
  intro x before suffix
  rcases List.suffix_cons_iff.1 suffix with whole | earlier
  · obtain ⟨rfl, rfl⟩ := List.cons.inj whole
    exact fits
  · exact h x before earlier

theorem Courteous.quiet (h : t.Courteous) (quiet : es.Quiet) : (es ++ t).Courteous := by
  induction es with
  | nil => exact h
  | cons e es ih =>
    obtain ⟨first, rest⟩ := lacks_cons.1 quiet
    exact (ih rest).cons (Event.fits_of_quiet first)

theorem Loses.confirmed {cause : Failure} (h : t.Loses cause) (kind : Service) (outcome : Outcome)
    (a : Bool) : Loses (.confirmed kind outcome a :: t) cause := ⟨h.idle, h.lost⟩

end Trace

theorem Event.quiet_confirmed {kind : Service} (other : kind ≠ .access) (outcome : Outcome)
    (a : Bool) : Trace.Quiet [.confirmed kind outcome a] :=
  Trace.lacks_cons.2 ⟨Event.isAccessCall_confirmed other outcome a, Trace.lacks_nil⟩

theorem Confirms.quiet {outcome : Outcome} {ks : List Service} {es : Trace}
    (h : Confirms outcome ks es) (other : .access ∉ ks) : es.Quiet := by
  induction h with
  | nil => exact Trace.lacks_nil
  | cons acknowledged rest ih =>
    rename_i kind ks es
    obtain ⟨differs, others⟩ := not_or.1 (mt List.mem_cons.2 other)
    exact Trace.lacks_append.2 ⟨ih others, Event.quiet_confirmed (Ne.symm differs) outcome _⟩

/-- A valid answer to another frame leaves the open answer alone. -/
theorem Settles.spares {d u : Device} {es : Trace} (h : Settles d es u)
    (other : d.riding ≠ some .access) :
    es.Quiet ∧ u.slots.request? .access = d.slots.request? .access := by
  cases h with
  | cyclic => exact ⟨Trace.lacks_nil, rfl⟩
  | stray => exact ⟨Trace.lacks_nil, rfl⟩
  | carried a rides ticket =>
    rename_i kind request
    have away : kind ≠ .access := by
      rintro rfl
      exact other rides
    exact ⟨Event.quiet_confirmed away _ a, Slots.request?_close_ne _ (Ne.symm away)⟩

theorem Delivers.trace_quiet {data : Octets} {i j : Images} {es : Trace}
    (h : Delivers data i es j) : es.Quiet := by
  intro e mem
  obtain ⟨_, rfl⟩ := h.mem mem
  rfl

theorem Signals.trace_quiet {received : Option Control} {i j : Images} {es : Trace}
    (h : Signals received i es j) : es.Quiet := by
  intro e mem
  obtain ⟨_, _, rfl⟩ := h.mem mem
  rfl

/-- An open answer keeps further accesses away. -/
theorem Serves.spares {now : Nat} {slots slots' : Slots} {access : Option Access} {es : Trace}
    (h : Serves now slots access es slots') (isOpen : slots.isOpen .access = true) :
    es = [] ∧ slots' = slots := by
  cases h with
  | none => exact ⟨rfl, rfl⟩
  | busy => exact ⟨rfl, rfl⟩
  | served free => cases isOpen.symm.trans free

/-- The open answer ends with the others, and once. -/
theorem Confirms.courteous {cause : Failure} {ks : List Service} {es t : Trace}
    (h : Confirms (.error cause) ks es) (nodup : ks.Nodup) (before : t.Courteous)
    (loses : t.Loses cause) (open' : .access ∈ ks → ∃ access, t.unanswered = some access) :
    (es ++ t).Courteous ∧
      (es ++ t).unanswered = if .access ∈ ks then none else t.unanswered := by
  induction h generalizing t with
  | nil => exact ⟨before, rfl⟩
  | cons acknowledged rest ih =>
    rename_i kind ks es
    obtain ⟨once, others⟩ := List.nodup_cons.1 nodup
    have still := loses.confirmed kind (.error cause) acknowledged
    rw [List.append_assoc]
    by_cases own : kind = .access
    · subst own
      obtain ⟨access, waits⟩ := open' List.mem_cons_self
      have fits : Event.Fits t (.confirmed .access (.error cause) acknowledged) :=
        ⟨access, waits, .inr ⟨cause, loses, rfl⟩⟩
      obtain ⟨courteous, after⟩ := ih others (before.cons fits) still fun mem => absurd mem once
      refine ⟨courteous, after.trans ?_⟩
      rw [if_neg once, if_pos List.mem_cons_self]
      rfl
    · have quiet := Event.isAccessCall_confirmed own (.error cause) acknowledged
      have same := Trace.Quiet.unanswered (Trace.lacks_cons.2 ⟨quiet, Trace.lacks_nil⟩) t
      have mem : Service.access ∈ kind :: ks ↔ .access ∈ ks := by
        rw [List.mem_cons, or_iff_right (Ne.symm own)]
      obtain ⟨courteous, after⟩ := ih others (before.cons (Event.fits_of_quiet quiet)) still
        fun later => (open' (mem.2 later)).imp fun access waits => same.trans waits
      refine ⟨courteous, after.trans ?_⟩
      simp only [mem]
      exact congrArg _ same

namespace Device

theorem nodup_openKinds (s : Slots) : s.openKinds.Nodup := by
  have nodup : Service.all.Nodup := by decide
  exact List.Pairwise.filter _ nodup

theorem mem_openKinds {s : Slots} {k : Service} : k ∈ s.openKinds ↔ s.isOpen k = true := by
  rw [Slots.openKinds, List.mem_filter]
  exact and_iff_right (Service.mem_all k)

/-! ## The answer that a device holds -/

/-- The history agrees with the answer that the device holds. -/
structure Converses (d : Device) (t : Trace) : Prop where
  courteous : t.Courteous
  answer : ∀ r, d.slots.request? .access = some r → ∃ answer access, r = ⟨.access, answer⟩ ∧
    t.unanswered = some access ∧ answer.encode = access.octets ∧ answer.outcome = access.result
  idle : d.slots.request? .access = none → t.unanswered = none

namespace Converses

variable {d u : Device} {es t : Trace}

theorem append (h : d.Converses t) (courteous : (es ++ t).Courteous)
    (same : (es ++ t).unanswered = t.unanswered)
    (kept : u.slots.request? .access = d.slots.request? .access) : u.Converses (es ++ t) := by
  refine ⟨courteous, ?_, ?_⟩
  · rw [same, kept]
    exact h.answer
  · rw [same, kept]
    exact h.idle

theorem quiet (h : d.Converses t) (quiet : es.Quiet)
    (kept : u.slots.request? .access = d.slots.request? .access) : u.Converses (es ++ t) :=
  h.append (h.courteous.quiet quiet) (quiet.unanswered t) kept

theorem waits (h : d.Converses t) (isOpen : d.slots.isOpen .access = true) :
    ∃ access, t.unanswered = some access := by
  obtain ⟨r, request⟩ := Slots.exists_request?_of_isOpen isOpen
  obtain ⟨_, access, -, waits, -⟩ := h.answer r request
  exact ⟨access, waits⟩

theorem lost {cause : Failure} {ks : List Service} (h : d.Converses t)
    (confirms : Confirms (.error cause) ks es) (nodup : ks.Nodup)
    (own : .access ∈ ks ↔ d.slots.isOpen .access = true) (loses : t.Loses cause)
    (closed : u.slots.request? .access = none) : u.Converses (es ++ t) := by
  obtain ⟨courteous, after⟩ := confirms.courteous nodup h.courteous loses fun mem =>
    h.waits (own.1 mem)
  refine ⟨courteous, fun r isOpen => ?_, fun _ => ?_⟩
  · cases closed.symm.trans isOpen
  · rw [after]
    split
    · rfl
    · rename_i none
      refine h.idle (Option.map_eq_none_iff.2 ?_)
      exact Option.not_isSome_iff_eq_none.1 fun isOpen => none (own.2 isOpen)

theorem settled {mode : Mode} {output : Octets} (h : d.Converses t)
    (completing : t.completing = true)
    (sent : ∀ k, d.riding = some k →
      ∃ r, d.slots.request? k = some r ∧ t.sent = some (d.frameOf r).encode)
    (settles : Settles (d.succeeded mode output) es u) : u.Converses (es ++ t) := by
  by_cases own : d.riding = some .access
  · cases settles with
    | cyclic none => cases none.symm.trans own
    | stray => exact h.quiet Trace.lacks_nil rfl
    | carried a rides ticket =>
      obtain rfl := Option.some.inj (own.symm.trans rides)
      obtain ⟨answer, access, rfl, waits, octets, result⟩ := h.answer _ ticket
      obtain ⟨r, found, last⟩ := sent .access rides
      obtain rfl := Option.some.inj (found.symm.trans ticket)
      have frame : d.frameOf ⟨.access, answer⟩ = .service .access access.octets := by
        rw [← octets]
        rfl
      rw [frame] at last
      refine ⟨h.courteous.cons ⟨access, waits, .inl ⟨completing, result, last⟩⟩, ?_, fun _ => rfl⟩
      intro r isOpen
      rw [Slots.request?, Slots.get_close_self] at isOpen
      cases isOpen
  · obtain ⟨quiet, kept⟩ := settles.spares own
    exact h.quiet quiet kept

theorem served {now : Nat} {access : Option Access} {slots : Slots} (h : d.Converses t)
    (serves : Serves now d.slots access es slots) (same : u.slots = slots) :
    u.Converses (es ++ t) := by
  cases serves with
  | none => exact h.quiet Trace.lacks_nil (by rw [same])
  | busy => exact h.quiet Trace.lacks_nil (by rw [same])
  | served free answered =>
    rename_i a e answer
    obtain ⟨call, octets, result⟩ := answered.means
    have none : t.unanswered = Option.none :=
      h.idle (Option.map_eq_none_iff.2 (Option.not_isSome_iff_eq_none.1 (Bool.eq_false_iff.1 free)))
    have fits : e.Fits t := by cases answered <;> exact none
    have opens : Trace.unanswered (e :: t) = some e := by
      rw [Trace.unanswered_cons, Event.opens?, call]
      rfl
    have placed : u.slots.request? .access = some ⟨.access, answer⟩ := by rw [same]; rfl
    refine ⟨h.courteous.cons fits, fun r isOpen => ?_, fun closed => ?_⟩
    · obtain rfl := Option.some.inj (placed.symm.trans isOpen)
      exact ⟨answer, e, rfl, opens, octets, result⟩
    · cases placed.symm.trans closed

end Converses

/-! ## One move -/

/-- The dispatch work serves no access, and leaves the answer to one alone. -/
theorem Move.spares_work {d u : Device} {es : Trace} (h : Move .work d es u) (housed : d.Housed) :
    es.Quiet ∧ u.slots.request? .access = d.slots.request? .access := by
  cases h with
  | answerMode a quiet pending =>
    have other : Service.getMode ≠ .access := nofun
    exact ⟨Event.quiet_confirmed other _ a, Slots.request?_close_ne _ (Ne.symm other)⟩
  | switch quiet idle pending failed =>
    rename_i ticket es
    rw [housed.leftovers] at failed
    cases failed
    refine ⟨by simp, ?_⟩
    change (d.survivors.requeue.mark .setMode true).request? .access = _
    rw [Slots.request?_mark, Slots.request?_requeue, housed.survivors_eq]
  | refuseMode a quiet idle pending failed =>
    rw [housed.leftovers] at failed
    cases failed
    have other : Service.setMode ≠ .access := nofun
    refine ⟨by simp, ?_⟩
    change (d.survivors.close .setMode).request? .access = _
    rw [Slots.request?_close_ne _ (Ne.symm other), housed.survivors_eq]
  | serve a unhurried inactive next =>
    rename_i request
    have other : request.kind ≠ .access := by
      intro own
      have room := housed request.kind (Slots.isOpen_of_nextOutOfCycle next)
      rw [inactive, own] at room
      cases room
    exact ⟨Event.quiet_confirmed other _ a, Slots.request?_close_ne _ (Ne.symm other)⟩
  | drop a =>
    have other : Service.input ≠ .access := nofun
    exact ⟨Event.quiet_confirmed other _ a, Slots.request?_close_ne _ (Ne.symm other)⟩
  | launch unhurried active chosen =>
    rename_i mode out
    refine ⟨by simp, ?_⟩
    rw [slots_launched]
    cases out.carries with
    | none => rfl
    | some kind => exact Slots.request?_mark ..
  | busy unhurried active chosen => exact ⟨by simp, rfl⟩
  | retry link mishap => cases mishap
  | exhaust link mishap => cases mishap
  | fault fatal => cases fatal

theorem Move.converses {c : Config} {p : Phase} {d u : Device} {es t : Trace} (run : Run c d t)
    (h : Move p d es u) (before : d.Converses t) : u.Converses (es ++ t) := by
  have idle : t.completing = false := run.not_completing
  by_cases work : p = .work
  · subst work
    obtain ⟨quiet, kept⟩ := h.spares_work run.housed
    exact before.quiet quiet kept
  cases h with
  | grant own granted =>
    exact before.quiet (by simp)
      (Slots.request?_place_ne _ (Ne.symm own) _)
  | refuse a own refused =>
    rename_i r cause
    have requested : Trace.Quiet [.requested r (.error cause)] := by simp
    exact before.quiet (Trace.lacks_cons.2 ⟨Event.isAccessCall_confirmed own _ a, requested⟩) rfl
  | establish switching requested lost done =>
    rename_i mode es₁ es₂
    have only : Service.access ∉ d.slots.among [.setMode] := by
      intro mem
      cases List.mem_singleton.1 (List.mem_filter.1 mem).1
    have begun : Trace.Quiet [.linkEvent d.link (.modeConfirmed mode),
        .polled (some (.modeSwitched mode))] := by simp
    have base := before.quiet (u := d) begun rfl
    rw [List.append_assoc, List.append_assoc]
    have away : Service.access ≠ .setMode := nofun
    cases active : mode.active with
    | true =>
      rw [if_pos active] at lost
      cases lost
      refine base.quiet (done.quiet only) ?_
      change (Slots.close (if mode.active then _ else _) .setMode).request? _ = _
      rw [if_pos active, Slots.request?_close_ne _ away]
    | false =>
      have sio : mode = .inactive := by cases mode <;> first | rfl | cases active
      subst sio
      have once : (Service.all.filter Service.needsLink).Nodup := by decide
      have nodup : (d.slots.among (Service.all.filter Service.needsLink)).Nodup :=
        List.Pairwise.filter _ once
      have own : .access ∈ d.slots.among (Service.all.filter Service.needsLink) ↔
          d.slots.isOpen .access = true := by
        rw [Slots.among, List.mem_filter]
        exact and_iff_right (by decide)
      have down : d.link.next (.modeConfirmed .inactive) = .inactive := by
        rw [switching]
        rfl
      have ended := base.lost (u := { d with slots := (d.slots.takeWhere Service.needsLink).2 })
        lost nodup own ⟨idle, .inr ⟨down, rfl⟩⟩ rfl
      refine ended.quiet (done.quiet only) ?_
      exact Slots.request?_close_ne _ away
  | exchange transferring decode fits settles delivers signals serves =>
    rename_i v mode frame master i₁ i₂ slots es₁ es₂ es₃ es₄
    have begun : Trace.Quiet [.linkEvent d.link .transferSucceeded,
        .polled (some (.transferComplete frame))] := by simp
    have cycled : Trace.Quiet [.cycled] := by simp
    have base := before.quiet (u := d) begun rfl
    have settled := base.settled rfl (fun k rides => run.sent_rider rides) settles
    have handed := (settled.quiet (u := v) delivers.trace_quiet rfl).quiet (u := v)
      signals.trace_quiet rfl
    have served := handed.served (u := { v with images := i₂, slots }) serves rfl
    have whole := served.quiet (u := { v with images := i₂, slots }) cycled rfl
    simpa using whole
  | retry transferring mishap =>
    exact before.quiet (by cases mishap <;> simp) rfl
  | exhaust transferring mishap left failed =>
    rename_i mode cause e es
    have begun : Trace.Quiet [.linkEvent (.active mode) .fatalError, .cycled,
        .linkEvent d.link .recoverableError, e] := by
      cases mishap <;> simp
    have base := before.quiet (u := d) begun rfl
    have blame : Trace.blame (e :: t) = some cause := by
      rw [Trace.blame, List.findSome?_cons, mishap.cause_eq]
    rw [List.append_assoc]
    exact base.lost failed (nodup_openKinds _) mem_openKinds
      ⟨rfl, .inl ⟨Link.next_fatalError (.active mode), blame⟩⟩ rfl
  | fault fatal failed =>
    rename_i cause e es
    have begun : Trace.Quiet [.linkEvent d.link .fatalError, e] := by
      cases fatal <;> simp
    have base := before.quiet (u := d) begun rfl
    have blame : Trace.blame (e :: t) = some cause := by
      rw [Trace.blame, List.findSome?_cons, fatal.cause_eq]
    have still : Trace.completing (e :: t) = false := by cases fatal <;> exact idle
    rw [List.append_assoc]
    exact base.lost failed (nodup_openKinds _) mem_openKinds
      ⟨still, .inl ⟨Link.next_fatalError d.link, blame⟩⟩ rfl
  | _ => first | exact absurd rfl work | exact before.quiet (by simp) rfl

theorem Run.converses {c : Config} {d : Device} {t : Trace} (h : Run c d t) : d.Converses t := by
  induction h with
  | start => exact ⟨Trace.courteous_nil, nofun, fun _ => rfl⟩
  | move before last ih => exact last.converses before ih

/-! ## Frames that carry an answer -/

/-- A frame that carries an answer carries the answer that is open. -/
theorem Converses.answers {c : Config} {d : Device} {t : Trace} (h : d.Converses t)
    (run : Run c d t) {out : InFlight} (chosen : d.choose = .again out ∨ d.choose = .fresh out)
    {payload : Octets} (same : out.frame.encode = (DeviceFrame.service .access payload).encode) :
    ∃ access, t.unanswered = some access ∧ payload = access.octets := by
  have builds : d.Builds out := by
    rcases chosen with again | fresh
    · exact run.builds (choose_again again)
    · exact builds_of_suits (suits_of_fresh fresh) fun k => frame_of_fresh fresh
  have frame : out.frame = .service .access payload := by
    have read := congrArg DeviceFrame.decode same
    rw [DeviceFrame.decode_exact.1, DeviceFrame.decode_exact.1] at read
    exact Except.ok.inj read
  cases builds with
  | cyclic => cases frame
  | input => cases frame
  | service mem ticket =>
    rename_i request
    obtain ⟨kind, content⟩ := request
    obtain ⟨rfl, rfl⟩ := DeviceFrame.service.inj frame
    obtain ⟨answer, access, same, waits, octets, -⟩ := h.answer _ ticket
    cases same
    exact ⟨access, waits, octets⟩

/-- The master sees no answer but the one that is open. -/
theorem Run.answers {c : Config} {d : Device} {t before : Trace} {payload : Octets}
    {accepted : Bool} (h : Run c d t)
    (offer : .transferred (DeviceFrame.service .access payload).encode accepted :: before <:+ t) :
    ∃ access, before.unanswered = some access ∧ payload = access.octets := by
  induction h with
  | start => cases List.suffix_nil.1 offer
  | move run last ih =>
    rcases Trace.suffix_append offer with earlier | ⟨m, rfl, within⟩
    · exact ih earlier
    · obtain ⟨rfl, out, chosen, same⟩ := last.offers within
      exact run.converses.answers run chosen same.symm

end Device

/-! ## Calls in turn -/

namespace Trace

theorem accessCalls_bare (t : Trace) : accessCalls (bare t) = accessCalls t :=
  filterMap_bare (fun e remark => by cases e <;> first | rfl | cases remark) t

theorem accessCalls_cons (e : Event) (t : Trace) :
    accessCalls (e :: t) = e.accessCall?.toList ++ accessCalls t := by
  rw [accessCalls, List.filterMap_cons]
  cases e.accessCall? <;> rfl

/-- The latest call is an access exactly if its answer is open. -/
theorem head?_accessCalls (t : Trace) :
    t.accessCalls.head? = some true ↔ ∃ access, t.unanswered = some access := by
  induction t with
  | nil =>
    refine ⟨nofun, ?_⟩
    rintro ⟨_, waits⟩
    cases waits
  | cons e t ih =>
    rw [accessCalls_cons, unanswered_cons, Event.opens?]
    rcases e.accessCall? with _ | _ | _
    · exact ih
    · refine ⟨nofun, ?_⟩
      rintro ⟨_, waits⟩
      cases waits
    · exact ⟨fun _ => ⟨e, rfl⟩, fun _ => rfl⟩

theorem fits_of_accessCall? {e : Event} {before : Trace} (fits : e.Fits before) :
    (e.accessCall? = some true → before.unanswered = none) ∧
      (e.accessCall? = some false → ∃ access, before.unanswered = some access) := by
  cases e with
  | read | written => exact ⟨fun _ => fits, nofun⟩
  | confirmed kind =>
    cases kind with
    | access => exact ⟨nofun, fun _ => fits.imp fun _ waits => waits.1⟩
    | _ => exact ⟨nofun, nofun⟩
  | _ => exact ⟨nofun, nofun⟩

/-- Accesses and the ends of answers take turns, and an access comes first. -/
theorem Courteous.alternates {t : Trace} (h : t.Courteous) :
    (accessCalls t).IsChain (· ≠ ·) ∧
      ∀ first, (accessCalls t).getLast? = some first → first = true := by
  induction t with
  | nil => exact ⟨.nil, nofun⟩
  | cons e t ih =>
    have earlier : Courteous t := fun x before suffix =>
      h x before (suffix.trans (List.suffix_cons e t))
    obtain ⟨turns, starts⟩ := ih earlier
    obtain ⟨access, ends⟩ := fits_of_accessCall? (h e t List.suffix_rfl)
    have head := head?_accessCalls t
    rw [accessCalls_cons]
    cases call : e.accessCall? with
    | none => exact ⟨turns, starts⟩
    | some kind =>
      have differs : ∀ last ∈ (accessCalls t).head?, kind ≠ last := by
        intro last mem same
        subst same
        cases kind with
        | true =>
          obtain ⟨_, waits⟩ := head.1 mem
          cases (access call).symm.trans waits
        | false => cases mem.symm.trans (head.2 (ends call))
      refine ⟨List.isChain_cons.2 ⟨differs, turns⟩, fun first last => ?_⟩
      rw [Option.toList_some, List.singleton_append, List.getLast?_cons] at last
      cases empty : (accessCalls t).getLast? with
      | some oldest =>
        rw [empty] at last
        obtain rfl := Option.some.inj last
        exact starts _ empty
      | none =>
        rw [empty] at last
        obtain rfl := Option.some.inj last
        cases kind with
        | true => rfl
        | false =>
          have started := head.2 (ends call)
          rw [List.getLast?_eq_none_iff.1 empty] at started
          cases started

end Trace

end Sdci
