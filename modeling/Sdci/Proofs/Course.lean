import Sdci.Proofs.Halt
import Sdci.Proofs.Handover

/-! # The course of a transfer

For what a device counts only a few things matter: a frame goes out, the master answers it, the
attempt fails, the link stops or is switched. `Device.Course` has one rule for each of them and one
for all the rest, so a count need not be followed through every move.

* `Trace.occurrences`: how many events there were of a sort that depends on what came before.
* `Event.Inert`, `Event.Stepwise`: what is no step of an exchange, and what nothing else is.
* `Trace.Aside`: a stretch of a history that has no bearing on a transfer.
* `Device.Course`, `Device.Run.course`: every move takes one of these courses.
* `Event.Stepwise.retry` and the others beside it: what a course adds to a count.
-/

namespace Sdci
set_option autoImplicit false

/-! ## Events that are told by what came before -/

namespace Trace

/-- How many events there were of the sort that their history and they make out. -/
def occurrences (p : Trace → Event → Bool) : Trace → Nat
  | [] => 0
  | e :: t => occurrences p t + (p t e).toNat

section Occurrences

variable {p : Trace → Event → Bool} {q : Event → Bool} {es t : Trace}

theorem occurrences_append (none : es.Without p t) : occurrences p (es ++ t) = occurrences p t := by
  induction es with
  | nil => rfl
  | cons e es ih =>
    obtain ⟨first, rest⟩ := without_cons.1 none
    rw [List.cons_append, occurrences, first]
    exact ih rest

theorem occurrences_const (q : Event → Bool) (t : Trace) :
    occurrences (fun _ => q) t = t.countP q := by
  induction t with
  | nil => rfl
  | cons e t ih =>
    rw [occurrences, ih, List.countP_cons]
    cases q e <;> rfl

/-- What no remark is and no remark changes occurs as often without remarks. -/
theorem occurrences_bare (silent : ∀ e m, e.isRemark = true → p m e = false)
    (same : ∀ e m, p (bare m) e = p m e) (t : Trace) :
    occurrences p (bare t) = occurrences p t := by
  induction t with
  | nil => rfl
  | cons e t ih =>
    cases remark : e.isRemark with
    | true =>
      rw [bare_cons_remark remark, occurrences, silent e t remark]
      exact ih
    | false => rw [bare_cons remark, occurrences, occurrences, ih, same]

end Occurrences

end Trace

open Trace

/-! ## Steps of an exchange -/

namespace Event

/-- The link leaves another state for the fault state. -/
@[simp] def entersFault : Event → Bool
  | linkEvent source event => decide (source ≠ .fault ∧ source.next event = .fault)
  | _ => false

/-- The transceiver reports on the frame on the line, or the time for that has passed. -/
def endsTransfer (before : Trace) : Event → Bool
  | polled (some (.transferComplete _)) => before.link.isTransferring
  | polled (some (.transferFailed _)) => before.link.isTransferring
  | expired timer => timer == .transfer
  | _ => false

/-- The event is a step of an exchange, or a call or report that belongs to one. The confirmation of
a mode is none if it leaves the link alive. -/
def steers : Event → Bool
  | transferred _ accepted => accepted
  | linkEvent source (.modeConfirmed mode) => (linkEvent source (.modeConfirmed mode)).entersFault
  | linkEvent _ _ => true
  | polled (some .hardwareFault) => true
  | cycled => true
  | _ => false

/-- The event is no step of an exchange. -/
structure Inert (e : Event) : Prop where
  untaken : e.taken? = none
  goesOn : e.endsExchange = false
  unfailing : e.isFailure = false
  unanswered : e.succeeds = false
  alive : e.isFatal = false
  stays : e.entersFault = false

theorem inert_of_steers {e : Event} (apart : e.steers = false) : e.Inert := by
  cases e
  case transferred frame accepted =>
    cases accepted <;> first | exact ⟨rfl, rfl, rfl, rfl, rfl, rfl⟩ | cases apart
  case linkEvent source event =>
    cases event
    case modeConfirmed => exact ⟨rfl, rfl, rfl, rfl, rfl, apart⟩
    all_goals cases apart
  all_goals exact ⟨rfl, rfl, rfl, rfl, rfl, rfl⟩

theorem inert_cycled : cycled.Inert := ⟨rfl, rfl, rfl, rfl, rfl, rfl⟩

theorem inert_of_isRemark {e : Event} (remark : e.isRemark = true) : e.Inert :=
  inert_of_steers (by cases e <;> first | rfl | cases remark)

theorem Inert.failures {e : Event} (h : e.Inert) (t : Trace) : failures (e :: t) = t.failures := by
  rw [Trace.failures, h.goesOn, h.unfailing]
  rfl

/-- Only steps of an exchange are of this sort. -/
def Stepwise (p : Trace → Event → Bool) : Prop := ∀ e m, e.Inert → p m e = false

theorem Inert.occurrences {e : Event} {p : Trace → Event → Bool} (h : e.Inert) (steps : Stepwise p)
    (t : Trace) : occurrences p (e :: t) = t.occurrences p := by
  rw [Trace.occurrences, steps e t h]
  rfl

/-- A sort of steps that is told without the remarks occurs as often without them. -/
theorem Stepwise.bare {p : Trace → Event → Bool} (h : Stepwise p)
    (same : ∀ e m, p (Trace.bare m) e = p m e) (t : Trace) :
    (Trace.bare t).occurrences p = t.occurrences p :=
  occurrences_bare (fun e m remark => h e m (inert_of_isRemark remark)) same t

end Event

theorem Device.Mishap.inert {d : Device} {p : Phase} {cause : Failure} {e : Event}
    (h : Mishap d p cause e) : e.Inert := by
  cases h <;> exact ⟨rfl, rfl, rfl, rfl, rfl, rfl⟩

theorem Device.Mishap.failures {d : Device} {p : Phase} {cause : Failure} {e : Event}
    (h : Mishap d p cause e) (source : Link) (t : Trace) :
    Trace.failures (.cycled :: .linkEvent source .recoverableError :: e :: t) = t.failures + 1 := by
  rw [Event.inert_cycled.failures]
  exact congrArg (· + 1) (h.inert.failures t)

theorem Device.Fatal.inert {d : Device} {p : Phase} {cause : Failure} {e : Event}
    (h : Fatal d p cause e) : e.Inert := by
  cases h <;> exact ⟨rfl, rfl, rfl, rfl, rfl, rfl⟩

/-! ## What has no bearing on a transfer -/

namespace Trace

/-- Nothing in the stretch `es`, which came after `t`, belongs to an exchange. -/
structure Aside (es t : Trace) : Prop where
  steers : es.Lacks Event.steers
  transfer : es.Without Event.endsTransfer t

@[simp] theorem aside_cons {e : Event} {es t : Trace} :
    Aside (e :: es) t ↔
      (e.steers = false ∧ Event.endsTransfer (es ++ t) e = false) ∧ es.Aside t := by
  constructor
  · rintro ⟨steers, transfer⟩
    obtain ⟨apart, rest⟩ := lacks_cons.1 steers
    obtain ⟨running, earlier⟩ := without_cons.1 transfer
    exact ⟨⟨apart, running⟩, rest, earlier⟩
  · rintro ⟨⟨apart, running⟩, rest, earlier⟩
    exact ⟨lacks_cons.2 ⟨apart, rest⟩, without_cons.2 ⟨running, earlier⟩⟩

@[simp] theorem aside_nil (t : Trace) : Aside [] t := ⟨lacks_nil, without_nil⟩

theorem Aside.append {es fs t : Trace} (later : fs.Aside (es ++ t)) (earlier : es.Aside t) :
    (fs ++ es).Aside t :=
  ⟨lacks_append.2 ⟨later.steers, earlier.steers⟩,
    without_append.2 ⟨later.transfer, earlier.transfer⟩⟩

theorem Upcalls.aside {es : Trace} (called : es.Upcalls) (lacks : es.Lacks Event.steers)
    (t : Trace) : es.Aside t := by
  refine ⟨lacks, fun e m latest => ?_⟩
  have upcall := called e (latest.subset List.mem_cons_self)
  cases e <;> first | rfl | cases upcall

namespace Aside

variable {p : Trace → Event → Bool} {es t : Trace} (h : es.Aside t)
include h

theorem inert {e : Event} (mem : e ∈ es) : e.Inert := Event.inert_of_steers (h.steers e mem)

theorem occurrences (steps : Event.Stepwise p) : occurrences p (es ++ t) = t.occurrences p :=
  occurrences_append fun e m latest => steps e (m ++ t) (h.inert (latest.subset List.mem_cons_self))

theorem failures : failures (es ++ t) = t.failures := by
  have inert (e : Event) (mem : e ∈ es) : e.Inert := h.inert mem
  clear h
  induction es with
  | nil => rfl
  | cons e es ih =>
    rw [List.cons_append, (inert e List.mem_cons_self).failures]
    exact ih fun x mem => inert x (List.mem_cons_of_mem e mem)

end Aside

end Trace

theorem Confirms.aside {outcome : Outcome} {ks : List Service} {es : Trace}
    (h : Confirms outcome ks es) (t : Trace) : es.Aside t := by
  refine h.upcalls.aside (fun e mem => ?_) t
  obtain ⟨_, _, rfl⟩ := h.mem mem
  rfl

namespace Device

/-! ## Courses -/

/-- What a move means for the transfer under way: nothing, or the start or the end of an attempt,
the end of the link, or the start of a new one. -/
inductive Course (d : Device) (t : Trace) : Trace → Device → Prop
  | apart {u : Device} {es : Trace} (aside : es.Aside t) (tally : u.tally = d.tally)
      (completed : u.cycles.completed = d.cycles.completed) (frame : u.inFlight = d.inFlight)
      (link : u.link.isTransferring = d.link.isTransferring) : Course d t es u
  | switch {target : Mode} {es : Trace} (idle : d.link.idle = true) (aside : es.Aside t) :
      Course d t (.linkEvent d.link (.modeSetAccepted target) :: es) (d.switched target)
  | launch {mode : Mode} {out : InFlight} (link : d.link = .active mode)
      (chosen : d.choose = .again out ∨ d.choose = .fresh out) :
      Course d t [.linkEvent d.link .transferAccepted, .transferred out.frame.encode true]
        (d.launched mode out)
  | answer {u : Device} {mode : Mode} {frame : Octets} {es : Trace}
      (link : d.link = .transferring mode)
      (reply : Event.isReply d.config t (.polled (some (.transferComplete frame))) = true)
      (aside : ∀ t, es.Aside t) (tally : u.tally = d.tally)
      (completed : u.cycles.completed = bump64 d.cycles.completed) (dropped : u.inFlight = none)
      (active : u.link = .active mode) :
      Course d t
        (.cycled :: (es ++
          [.linkEvent d.link .transferSucceeded, .polled (some (.transferComplete frame))])) u
  | retry {p : Phase} {mode : Mode} {cause : Failure} {e : Event}
      (link : d.link = .transferring mode) (mishap : Mishap d p cause e)
      (left : t.failures < d.config.maxRetries.toNat) :
      Course d t [.cycled, .linkEvent d.link .recoverableError, e] (d.retried mode cause)
  | exhaust {p : Phase} {mode : Mode} {cause : Failure} {e : Event} {es : Trace}
      (link : d.link = .transferring mode) (mishap : Mishap d p cause e)
      (spent : t.failures = d.config.maxRetries.toNat) (aside : ∀ t, es.Aside t) :
      Course d t
        (es ++ [.linkEvent (.active mode) .fatalError, .cycled,
          .linkEvent d.link .recoverableError, e])
        (d.failed mode cause).faulted
  | fault {p : Phase} {cause : Failure} {e : Event} {es : Trace} (fatal : Fatal d p cause e)
      (aside : ∀ t, es.Aside t) : Course d t (es ++ [.linkEvent d.link .fatalError, e]) d.faulted

/-- Once the exchange is over the application is called, and the call that ends the cycle comes
last. -/
theorem Closing.course {d u : Device} {t es : Trace} {mode : Mode} {frame : Octets}
    {master : MasterFrame} (h : d.Closing mode frame master es u)
    (link : d.link = .transferring mode)
    (reply : Event.isReply d.config t (.polled (some (.transferComplete frame))) = true) :
    d.Course t es u := by
  cases h with
  | intro settles delivers signals serves =>
    rename_i v i₁ i₂ slots es₁ es₂ es₃ es₄
    have called := serves.upcalls.append (signals.upcalls.append
      (delivers.upcalls.append settles.upcalls))
    have apart : Trace.Lacks Event.steers (es₄ ++ (es₃ ++ (es₂ ++ es₁))) := by
      refine lacks_append.2 ⟨serves.lacks (fun _ _ _ => rfl) fun _ _ _ _ => rfl, ?_⟩
      refine lacks_append.2 ⟨signals.lacks fun _ _ => rfl, ?_⟩
      exact lacks_append.2 ⟨delivers.lacks fun _ => rfl, settles.lacks fun _ _ _ => rfl⟩
    have same := settles.eq
    have answer := Course.answer (d := d) (u := { v with images := i₂, slots }) link reply
      (called.aside apart) (by rw [same]; rfl) (by rw [same]; rfl) (by rw [same])
      (by rw [same]; rfl)
    simpa using answer

theorem alive_of_idle {l : Link} (idle : l.idle = true) (target : Mode) :
    (Event.linkEvent l (.modeSetAccepted target)).entersFault = false := by
  simp [Link.next_modeSetAccepted idle]

theorem endsTransfer_of_ignores {d : Device} {i : Indication} {t : Trace}
    (useless : d.link.ignores i = true) (told : d.Told t) :
    Event.endsTransfer t (.polled (some i)) = false := by
  cases i with
  | transferComplete | transferFailed =>
    rw [Event.endsTransfer, told.link]
    cases link : d.link <;> rw [link] at useless <;> first | rfl | cases useless
  | _ => rfl

theorem isTransferring_established (d : Device) (mode : Mode) :
    (d.established mode).link.isTransferring = false := by
  unfold established
  cases mode.active <;> rfl

/-- The mode that is confirmed is the one that was asked for, so the link lives. -/
theorem aside_confirmed {mode : Mode} (t : Trace) :
    Trace.Aside [.linkEvent (.switching mode) (.modeConfirmed mode),
      .polled (some (.modeSwitched mode))] t := by
  have next : (Link.switching mode).next (.modeConfirmed mode) ≠ .fault := by
    rw [Link.next, if_pos rfl]
    intro stops
    cases active : mode.active <;> rw [active] at stops <;> cases stops
  simp [Event.steers, Event.endsTransfer, Event.entersFault, next]

theorem Run.failures_le {c : Config} {d : Device} {t : Trace} (run : Run c d t) :
    t.failures ≤ d.config.maxRetries.toNat := by
  rw [← run.counted.failures, ← run.booked.limit]
  exact UInt8.le_iff_toNat_le.1 run.booked.bounded

theorem Run.left_iff {c : Config} {d : Device} {t : Trace} (run : Run c d t) :
    d.retries.left = true ↔ t.failures < d.config.maxRetries.toNat := by
  have most := run.failures_le
  rw [Session.left_iff run.booked run.counted]
  omega

theorem Run.course {c : Config} {p : Phase} {d u : Device} {es t : Trace} (run : Run c d t)
    (h : Move p d es u) : d.Course t es u := by
  cases h with
  | ignore useless =>
    rename_i i
    have away := endsTransfer_of_ignores useless run.told
    have harmless : (Event.polled (some i)).steers = false := by
      cases i
      case hardwareFault => cases link : d.link <;> rw [link] at useless <;> cases useless
      all_goals rfl
    exact .apart (by simpa using ⟨harmless, away⟩) rfl rfl rfl rfl
  | establish link requested lost done =>
    rename_i mode es₁ es₂
    rw [link]
    refine .apart ?_ rfl rfl rfl ?_
    · exact ((done.aside _).append (lost.aside _)).append (aside_confirmed t)
    · rw [isTransferring_established, link]
      rfl
  | exchange link decode fits settles delivers signals serves =>
    have reply := reply_of_transferring run.told run.limited link decode fits
    exact Closing.course (.intro settles delivers signals serves) link
      (by rw [Event.isReply, reply]; rfl)
  | retry link mishap left => exact .retry link mishap (run.left_iff.1 left)
  | exhaust link mishap left failed =>
    have most := run.failures_le
    have spent := mt run.left_iff.2 (Bool.eq_false_iff.1 left)
    exact .exhaust link mishap (by omega) failed.aside
  | fault fatal failed => exact .fault fatal failed.aside
  | stale id due idle => exact absurd (run.supervised.watches_of_due due) (by simp [idle])
  | switch quiet idle pending failed =>
    rename_i ticket es
    exact .switch idle (aside_cons.2 ⟨⟨rfl, rfl⟩, failed.aside t⟩)
  | refuseMode a quiet idle pending failed =>
    refine .apart ?_ rfl rfl rfl rfl
    exact aside_cons.2 ⟨⟨rfl, rfl⟩, aside_cons.2 ⟨⟨rfl, rfl⟩, failed.aside t⟩⟩
  | launch unhurried link chosen => exact .launch link chosen
  | _ => exact .apart (by simp [Event.steers, Event.endsTransfer]) rfl rfl rfl rfl

end Device

/-! ## What a course adds to a count -/

namespace Event.Stepwise

open Device

variable {p : Trace → Event → Bool} {d : Device} {phase : Phase} {cause : Failure} {e : Event}
  {source : Link} {es t : Trace} (h : Event.Stepwise p)
include h

theorem answer (aside : ∀ t, es.Aside t) (frame : Octets) :
    occurrences p (.cycled :: (es ++
        [.linkEvent source .transferSucceeded, .polled (some (.transferComplete frame))]) ++ t) =
      occurrences p t + (p (.polled (some (.transferComplete frame)) :: t)
        (.linkEvent source .transferSucceeded)).toNat := by
  have heard : (Event.polled (some (.transferComplete frame))).Inert := inert_of_steers rfl
  rw [List.cons_append, inert_cycled.occurrences h, List.append_assoc, (aside _).occurrences h]
  exact congrArg (· + _) (heard.occurrences h t)

theorem retry (mishap : Mishap d phase cause e) :
    occurrences p ([.cycled, .linkEvent source .recoverableError, e] ++ t) =
      occurrences p t + (p (e :: t) (.linkEvent source .recoverableError)).toNat := by
  rw [List.cons_append, inert_cycled.occurrences h]
  exact congrArg (· + _) (mishap.inert.occurrences h t)

theorem exhaust (mishap : Mishap d phase cause e) (aside : ∀ t, es.Aside t) (last : Link) :
    occurrences p (es ++ [.linkEvent last .fatalError, .cycled,
        .linkEvent source .recoverableError, e] ++ t) =
      occurrences p t + (p (e :: t) (.linkEvent source .recoverableError)).toNat +
        (p (.cycled :: .linkEvent source .recoverableError :: e :: t)
          (.linkEvent last .fatalError)).toNat := by
  rw [List.append_assoc, (aside _).occurrences h]
  exact congrArg (· + _) (h.retry mishap)

theorem fault (fatal : Fatal d phase cause e) (aside : ∀ t, es.Aside t) :
    occurrences p (es ++ [.linkEvent source .fatalError, e] ++ t) =
      occurrences p t + (p (e :: t) (.linkEvent source .fatalError)).toNat := by
  rw [List.append_assoc, (aside _).occurrences h]
  exact congrArg (· + _) (fatal.inert.occurrences h t)

theorem switch (aside : es.Aside t) (target : Mode) :
    occurrences p (.linkEvent source (.modeSetAccepted target) :: es ++ t) =
      occurrences p t + (p (es ++ t) (.linkEvent source (.modeSetAccepted target))).toNat :=
  congrArg (· + _) (aside.occurrences h)

end Event.Stepwise

end Sdci
