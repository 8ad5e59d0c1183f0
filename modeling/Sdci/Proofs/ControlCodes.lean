import Sdci.Proofs.Handover

/-! # A control code waits until the application takes it

A control code rides on one frame of the master. The application is asked to take it at the end of
that exchange and, as long as it refuses, at the end of each that follows, until another code
replaces it or the link ends.

* `Trace.signals`: the control codes that were offered, and the answers.
* `Trace.pendingControl`: the code that was refused last, if nothing has settled that since.
* `Trace.Signalled`: each code that was offered came with the exchange, or was pending.
* `Session.Pends`: the application is not asked, and a pending code stays unless the link ends.
* `Session.Reach.control_acknowledgement`: what is offered, when, and what becomes of it, in every
  run.
-/

namespace Sdci
set_option autoImplicit false

namespace Event

def signal? : Event → Option (Control × Bool)
  | controlOffered code accepted => some (code, accepted)
  | _ => none

/-- What the event leaves of the pending control code, if it has a bearing on it. -/
def control? : Event → Option (Option Control)
  | controlOffered code accepted => some (if accepted then none else some code)
  | linkEvent _ .fatalError => some none
  | linkEvent _ (.modeSetAccepted _) => some none
  | _ => none

@[simp] def offersControl : Event → Bool
  | controlOffered _ _ => true
  | _ => false

theorem offersControl_eq_false {e : Event} (silent : e.offers = false) :
    e.offersControl = false := by
  cases e <;> first | rfl | cases silent

theorem signal?_eq_none {e : Event} (silent : e.offersControl = false) : e.signal? = none := by
  cases e <;> first | rfl | cases silent

theorem eq_of_offersControl {e : Event} (h : e.offersControl = true) :
    ∃ code accepted, e = .controlOffered code accepted := by
  cases e <;> cases h
  exact ⟨_, _, rfl⟩

theorem control?_of_endsLink {e : Event} (h : e.endsLink = true) : e.control? = some none := by
  unfold endsLink at h
  split at h
  · rfl
  · rfl
  · cases h

theorem control?_eq_none {e : Event} (silent : e.offersControl = false)
    (kept : e.endsLink = false) : e.control? = none := by
  unfold control?
  split
  · cases silent
  · cases kept
  · cases kept
  · rfl

/-- A reply of the master brings this control code. -/
def sends (c : Config) (code : Control) (before : Trace) (e : Event) : Bool :=
  (e.reply? c before).any fun master => master.control == some code

/-- A reply of the master brings a control code other than this one. -/
def supersedes (c : Config) (code : Control) (before : Trace) (e : Event) : Bool :=
  (e.reply? c before).any fun master => master.control.any (· != code)

end Event

namespace Trace

/-- The control codes that the application was offered and its answers, latest first. -/
def signals (t : Trace) : List (Control × Bool) := t.filterMap Event.signal?

/-- The control code that was offered last, unless it was taken or the link has ended. -/
def pendingControl (t : Trace) : Option Control := (t.findSome? Event.control?).join

/-- The control code of the latest reply, until one is offered. -/
def receivedControl (c : Config) : Trace → Option Control
  | [] => none
  | e :: t =>
    if e.offersControl then none
    else ((e.reply? c t).map MasterFrame.control).getD (receivedControl c t)

/-- Each control code that was offered had come with the reply, or it was pending and none came. -/
def Signalled (c : Config) (t : Trace) : Prop :=
  ∀ code accepted (m : Trace), .controlOffered code accepted :: m <:+ t →
    (m.receivedControl c).or m.pendingControl = some code

variable {c : Config} {es t : Trace}

theorem pendingControl_cons (e : Event) (t : Trace) :
    pendingControl (e :: t) = e.control?.getD (pendingControl t) := by
  rw [pendingControl, List.findSome?_cons]
  cases e.control? <;> rfl

theorem pendingControl_append (silent : es.Lacks Event.offersControl)
    (kept : es.Lacks Event.endsLink) (t : Trace) :
    pendingControl (es ++ t) = pendingControl t :=
  congrArg Option.join
    (findSome_append (fun e mem => Event.control?_eq_none (silent e mem) (kept e mem)) t)

/-- Whatever was pending, it is lost with the link. -/
theorem pendingControl_of_lost (silent : es.Lacks Event.offersControl)
    (lost : ¬es.Lacks Event.endsLink) (t : Trace) : pendingControl (es ++ t) = none := by
  induction es with
  | nil => exact absurd lacks_nil lost
  | cons e es ih =>
    obtain ⟨first, rest⟩ := lacks_cons.1 silent
    rw [List.cons_append, pendingControl_cons]
    cases ends : e.endsLink with
    | true =>
      rw [Event.control?_of_endsLink ends]
      rfl
    | false =>
      rw [Event.control?_eq_none first ends]
      exact ih rest fun kept => lost (lacks_cons.2 ⟨ends, kept⟩)

theorem signals_append (es t : Trace) : signals (es ++ t) = signals es ++ signals t :=
  List.filterMap_append

theorem signals_eq_nil (silent : es.Lacks Event.offersControl) : signals es = [] :=
  List.filterMap_eq_nil_iff.2 fun e mem => Event.signal?_eq_none (silent e mem)

/-! ## Traces without remarks -/

theorem signals_bare (t : Trace) : signals (bare t) = signals t :=
  filterMap_bare (fun e remark => by cases e <;> first | rfl | cases remark) t

theorem pendingControl_bare (t : Trace) : pendingControl (bare t) = pendingControl t :=
  congrArg Option.join
    (findSome_bare_of (fun e remark => by cases e <;> first | rfl | cases remark) t)

theorem receivedControl_bare (t : Trace) : receivedControl c (bare t) = receivedControl c t := by
  induction t with
  | nil => rfl
  | cons e t ih =>
    cases remark : e.isRemark with
    | true =>
      have none : e.reply? c t = none :=
        Event.reply?_eq_none (Event.matters_eq_false_of_isRemark remark)
      have silent : e.offersControl = false := by cases e <;> first | rfl | cases remark
      rw [bare_cons_remark remark, receivedControl, none, silent]
      exact ih
    | false => rw [bare_cons remark, receivedControl, receivedControl, reply?_bare, ih]

theorem Signalled.of_bare (h : (bare t).Signalled c) : t.Signalled c := by
  intro code accepted m offer
  rw [← receivedControl_bare, ← pendingControl_bare]
  exact h code accepted (bare m) (suffix_bare rfl offer)

/-! ## Stretches of a history -/

theorem receivedControl_append (silent : es.Lacks Event.offersControl)
    (replyless : es.Without (Event.isReply c) t) :
    receivedControl c (es ++ t) = receivedControl c t := by
  induction es with
  | nil => rfl
  | cons e es ih =>
    obtain ⟨first, rest⟩ := lacks_cons.1 silent
    obtain ⟨none, earlier⟩ := without_cons.1 replyless
    rw [List.cons_append, receivedControl, first, Event.isReply_eq_false_iff.1 none]
    exact ih rest earlier

theorem Signalled.tail {e : Event} (h : Signalled c (e :: t)) : t.Signalled c :=
  fun code accepted m offer => h code accepted m (offer.trans (List.suffix_cons e t))

theorem Signalled.append (h : t.Signalled c)
    (new : ∀ code accepted (m : Trace), .controlOffered code accepted :: m <:+ es →
      (receivedControl c (m ++ t)).or (pendingControl (m ++ t)) = some code) :
    (es ++ t).Signalled c := by
  intro code accepted m offer
  rcases suffix_append offer with earlier | ⟨m, rfl, within⟩
  · exact h code accepted m earlier
  · exact new code accepted m within

/-! ## Refused and taken codes -/

variable {code : Control} {later between earlier : Trace}

/-- A refused code stays pending: it alone can be offered, unless another comes. -/
theorem Signalled.waits (h : Signalled c (later ++ .controlOffered code false :: earlier))
    (untaken : .controlOffered code true ∉ later) (kept : later.Lacks Event.endsLink)
    (newest : later.Without (Event.supersedes c code) (.controlOffered code false :: earlier)) :
    pendingControl (later ++ .controlOffered code false :: earlier) = some code ∧
      ∀ other, receivedControl c (later ++ .controlOffered code false :: earlier) = some other →
        other = code := by
  -- An offer is decided by what was received and what was pending before it, so both go together.
  induction later with
  | nil => exact ⟨rfl, nofun⟩
  | cons e later ih =>
    obtain ⟨first, rest⟩ := lacks_cons.1 kept
    obtain ⟨once, before⟩ := without_cons.1 newest
    obtain ⟨pending, received⟩ :=
      ih h.tail (fun mem => untaken (List.mem_cons_of_mem e mem)) rest before
    rw [List.cons_append] at h ⊢
    rw [pendingControl_cons, receivedControl]
    cases offer : e.offersControl with
    | true =>
      obtain ⟨offered, accepted, rfl⟩ := Event.eq_of_offersControl offer
      have origin := h offered accepted _ List.suffix_rfl
      have same : offered = code := by
        rcases Option.or_eq_some_iff.1 origin with new | ⟨-, old⟩
        · exact received offered new
        · exact Option.some.inj (old.symm.trans pending)
      obtain rfl := same
      cases accepted with
      | true => exact absurd List.mem_cons_self untaken
      | false => exact ⟨rfl, nofun⟩
    | false =>
      rw [Event.control?_eq_none offer first]
      refine ⟨pending, fun other latest => ?_⟩
      cases reply : e.reply? c (later ++ .controlOffered code false :: earlier) with
      | none =>
        rw [reply] at latest
        exact received other latest
      | some master =>
        rw [reply] at latest
        have same : master.control = some other := latest
        rw [Event.supersedes, reply] at once
        simpa [same] using once

/-- A code that was taken is neither pending nor received again until the master sends it again. -/
theorem Signalled.settles (h : Signalled c (between ++ .controlOffered code true :: earlier))
    (unsent : between.Without (Event.sends c code) (.controlOffered code true :: earlier)) :
    pendingControl (between ++ .controlOffered code true :: earlier) ≠ some code ∧
      receivedControl c (between ++ .controlOffered code true :: earlier) ≠ some code := by
  induction between with
  | nil => exact ⟨nofun, nofun⟩
  | cons e between ih =>
    obtain ⟨first, rest⟩ := without_cons.1 unsent
    obtain ⟨pending, received⟩ := ih h.tail rest
    rw [List.cons_append] at h ⊢
    rw [pendingControl_cons, receivedControl]
    cases offer : e.offersControl with
    | true =>
      obtain ⟨offered, accepted, rfl⟩ := Event.eq_of_offersControl offer
      have other : offered ≠ code := by
        rintro rfl
        rcases Option.or_eq_some_iff.1 (h offered accepted _ List.suffix_rfl) with new | ⟨-, old⟩
        · exact received new
        · exact pending old
      cases accepted with
      | true => exact ⟨nofun, nofun⟩
      | false => exact ⟨fun same => other (Option.some.inj same), nofun⟩
    | false =>
      constructor
      · cases ends : e.endsLink with
        | true =>
          rw [Event.control?_of_endsLink ends]
          exact nofun
        | false =>
          rw [Event.control?_eq_none offer ends]
          exact pending
      · cases reply : e.reply? c (between ++ .controlOffered code true :: earlier) with
        | none => exact received
        | some master =>
          rw [Event.sends, reply] at first
          simpa using first

end Trace

open Trace

namespace Device

/-! ## The end of an exchange -/

/-- The offer of a control code, in the history of an exchange. -/
structure Signalling (d u : Device) (frame : Octets) (received : Option Control)
    (es offered : Trace) : Prop where
  offers : ∀ code, received.or d.images.control = some code →
    ∃ accepted, offered = [.controlOffered code accepted] ∧
      u.images.control = if accepted then none else some code
  quiet : received.or d.images.control = none → offered = [] ∧ u.images.control = none
  around : d.Around frame Event.offersControl offered es

theorem Closing.signalling {d u : Device} {mode : Mode} {frame : Octets} {master : MasterFrame}
    {es : Trace} (h : d.Closing mode frame master es u) :
    ∃ offered, Signalling d u frame master.control es offered := by
  cases h with
  | intro settles delivers signals serves =>
    rename_i v i₁ i₂ slots es₁ es₂ es₃ es₄
    have same : i₁.control = d.images.control :=
      (control_of_delivers delivers).trans (control_of_settles settles)
    refine ⟨es₃, fun code some => ?_, fun none => ?_, ?_⟩
    · rw [← same] at some
      cases signals with
      | quiet none => cases none.symm.trans some
      | taken some' =>
        obtain rfl := Option.some.inj (some'.symm.trans some)
        exact ⟨true, rfl, rfl⟩
      | refused some' =>
        obtain rfl := Option.some.inj (some'.symm.trans some)
        exact ⟨false, rfl, rfl⟩
    · rw [← same] at none
      cases signals with
      | quiet none => exact ⟨rfl, (Option.or_eq_none_iff.1 none).2⟩
      | taken some => cases some.symm.trans none
      | refused some => cases some.symm.trans none
    · have later : Trace.Lacks Event.offersControl (.cycled :: es₄) :=
        lacks_cons.2 ⟨rfl, serves.lacks (fun _ _ _ => rfl) fun _ _ _ _ => rfl⟩
      have earlier : Trace.Lacks Event.offersControl (es₂ ++ es₁) :=
        lacks_append.2 ⟨delivers.lacks fun _ => rfl, settles.lacks fun _ _ _ => rfl⟩
      have called : Trace.Upcalls (.cycled :: es₄ ++ (es₂ ++ es₁)) :=
        List.forall_mem_cons.2
          ⟨rfl, serves.upcalls.append (delivers.upcalls.append settles.upcalls)⟩
      have around : d.Around frame Event.offersControl es₃ _ := .intro later earlier called
      simpa using around

theorem unsignalling_begun (l : Link) (frame : Octets) : Trace.Lacks Event.offersControl
    [.linkEvent l .transferSucceeded, .polled (some (.transferComplete frame))] := by
  simp

namespace Signalling

variable {d u : Device} {frame : Octets} {received : Option Control} {es offered t : Trace}
  {c : Config} {master : MasterFrame}

theorem signals_eq (h : Signalling d u frame received es offered) :
    es.signals = offered.signals := by
  obtain ⟨-, -, later, earlier, -⟩ := h
  have begun := lacks_append.2 ⟨earlier, unsignalling_begun d.link frame⟩
  rw [signals_append, signals_append, signals_eq_nil later, signals_eq_nil begun]
  exact List.append_nil _

/-- What is pending after an exchange is what the offer has left. -/
theorem pends (h : Signalling d u frame received es offered)
    (before : d.images.control = t.pendingControl) :
    u.images.control = (es ++ t).pendingControl := by
  obtain ⟨offers, quiet, later, earlier, called⟩ := h
  obtain ⟨kept, kept'⟩ := lacks_append.1 called.endsLink
  rw [List.append_assoc, pendingControl_append later kept]
  cases some : received.or d.images.control with
  | some code =>
    obtain ⟨accepted, rfl, left⟩ := offers code some
    exact left
  | none =>
    obtain ⟨rfl, left⟩ := quiet some
    obtain ⟨-, pending⟩ := Option.or_eq_none_iff.1 some
    rw [List.nil_append, List.append_assoc, pendingControl_append earlier kept']
    exact left.trans (pending.symm.trans before)

theorem signalled (h : Signalling d u frame master.control es offered)
    (pending : d.images.control = t.pendingControl)
    (reply : Event.reply? c t (.polled (some (.transferComplete frame))) = some master)
    (law : t.Signalled c) : (es ++ t).Signalled c := by
  obtain ⟨offers, quiet, later, earlier, called⟩ := h
  obtain ⟨-, kept⟩ := lacks_append.1 called.endsLink
  obtain ⟨-, unheard⟩ := lacks_append.1 called.receives
  have begun := lacks_append.2 ⟨earlier, unsignalling_begun d.link frame⟩
  refine law.append fun code accepted m latest => ?_
  obtain ⟨m, rfl, within⟩ := suffix_part rfl later begun latest
  cases origin : master.control.or d.images.control with
  | some offer =>
    obtain ⟨answer, rfl, -⟩ := offers offer origin
    obtain ⟨same, rfl⟩ : offer = code ∧ m = [] := by
      rcases List.suffix_cons_iff.1 within with whole | none
      · cases whole
        exact ⟨rfl, rfl⟩
      · cases List.suffix_nil.1 none
    have received : receivedControl c ([.linkEvent d.link .transferSucceeded,
        .polled (some (.transferComplete frame))] ++ t) = master.control := by
      change ((Event.reply? c t _).map _).getD _ = _
      rw [reply]
      rfl
    rw [List.nil_append, List.append_assoc,
      receivedControl_append earlier (replyless_of_lacks unheard),
      pendingControl_append earlier kept, received, ← same, ← origin, pending]
    rfl
  | none =>
    obtain ⟨rfl, -⟩ := quiet origin
    cases List.suffix_nil.1 within

end Signalling

/-! ## Every run -/

/-- The history tells which control code is pending, and where each that was offered came from. -/
structure Pending (d : Device) (t : Trace) : Prop where
  control : d.images.control = t.pendingControl
  law : t.Signalled d.config

theorem Withholds.unsignalling {d u : Device} {es : Trace} (h : d.Withholds es u) :
    es.Lacks Event.offersControl :=
  fun e mem => Event.offersControl_eq_false (h.none e mem)

theorem Withholds.pending {d u : Device} {es t : Trace} (h : d.Withholds es u)
    (before : d.Pending t) (config : u.config = d.config) : u.Pending (es ++ t) := by
  constructor
  · by_cases kept : es.Lacks Event.endsLink
    · rw [(h.stays kept).2, before.control, pendingControl_append h.unsignalling kept]
    · rw [(h.ends kept).2, pendingControl_of_lost h.unsignalling kept]
  · rw [config]
    refine before.law.append fun code accepted m offer => ?_
    cases h.none _ (offer.subset List.mem_cons_self)

theorem Run.pending {c : Config} {d : Device} {t : Trace} (h : Run c d t) : d.Pending t := by
  induction h with
  | start => exact ⟨rfl, fun _ _ _ offer => nomatch offer.length_le⟩
  | move before last ih =>
    cases last.hands before.told before.limited with
    | closes poll link decode fits closing =>
      obtain ⟨offered, signalling⟩ := closing.signalling
      have reply := reply_of_transferring before.told before.limited link decode fits
      refine ⟨signalling.pends ih.control, ?_⟩
      rw [last.config_eq]
      exact signalling.signalled ih.control reply ih.law
    | nothing withholds => exact withholds.pending ih last.config_eq

end Device

namespace Session

open Device

variable {σ : Type} {s t : Session σ} {now : Nat} {master : MasterFrame} {c : Config}

/-- The application is not asked. A pending control code stays, unless the link ends. -/
structure Pends (s t : Session σ) : Prop where
  silent : t.env.trace.signals = s.env.trace.signals
  stays : t.env.trace.countP Event.endsLink = s.env.trace.countP Event.endsLink →
    t.device.images.control = s.device.images.control
  ends : t.env.trace.countP Event.endsLink ≠ s.env.trace.countP Event.endsLink →
    t.device.images.control = none

theorem signals_of_bare {es : Trace} (trace : t.env.trace.bare = es ++ s.env.trace.bare) :
    t.env.trace.signals = es.signals ++ s.env.trace.signals := by
  rw [← signals_bare, trace, signals_append, signals_bare]

theorem Pends.of_withholds {new : Trace} (trace : t.env.trace.bare = new ++ s.env.trace.bare)
    (h : s.device.Withholds new t.device) : s.Pends t := by
  have count := countP_of_bare (p := Event.endsLink)
    (fun e remark => by cases e <;> first | rfl | cases remark) trace
  have kept : new.countP Event.endsLink = 0 ↔ new.Lacks Event.endsLink := by
    simp [List.countP_eq_zero, Trace.Lacks]
  refine ⟨?_, fun same => ?_, fun other => ?_⟩
  · rw [signals_of_bare trace, signals_eq_nil h.unsignalling]
    rfl
  · exact (h.stays (kept.1 (by omega))).2
  · exact (h.ends fun lacks => other (by rw [count, kept.2 lacks, Nat.zero_add])).2

variable [Transceiver σ] [Application σ]

theorem Closes.signals (h : s.Closes now master) (run : Run c s.device s.env.trace.bare) :
    let u := (s.enterTick now).poll now
    (∀ code, master.control.or s.device.images.control = some code →
      ∃ accepted, (s.tick now).env.trace.signals = (code, accepted) :: s.env.trace.signals ∧
        u.device.images.control = if accepted then none else some code) ∧
    (master.control.or s.device.images.control = none →
      (s.tick now).env.trace.signals = s.env.trace.signals ∧ u.device.images.control = none) ∧
    u.Pends (s.tick now) := by
  intro u
  obtain ⟨mode, frame, es, closing, polled, -⟩ := h.polls
  obtain ⟨fs, withholds, -, trace⟩ := h.withholds run
  obtain ⟨offered, signalling⟩ := closing.signalling
  have rest : u.Pends (s.tick now) := .of_withholds trace withholds
  have told : (s.tick now).env.trace.signals = offered.signals ++ s.env.trace.signals := by
    have whole : u.env.trace.bare = (es ++ [.ticked now]) ++ s.env.trace.bare := by
      rw [polled]
      simp
    rw [rest.silent, signals_of_bare whole, signals_append, signalling.signals_eq]
    exact congrArg (· ++ _) (List.append_nil _)
  refine ⟨fun code some => ?_, fun none => ?_, rest⟩
  · obtain ⟨accepted, rfl, left⟩ := signalling.offers code some
    exact ⟨accepted, told, left⟩
  · obtain ⟨rfl, left⟩ := signalling.quiet none
    exact ⟨told, left⟩

/-- In every run each valid exchange offers the application one control code, once: that of the
master, or else the pending one. It stays pending exactly if the application refuses it. Without
either none is offered, nor by anything but a valid exchange; then a pending code stays, until the
link ends and it is lost. So a refused code is pending, and offered by the next valid exchange, as
long as it is not taken, no other has come and the link has not ended; and a code that was taken is
not offered again before the master has sent it again. -/
theorem Reach.control_acknowledgement (h : Reach s) :
    let c := s.device.config
    let pending := s.device.images.control
    (∀ now master, s.Closes now master →
      let u := (s.enterTick now).poll now
      (∀ code, master.control.or pending = some code →
        ∃ accepted, (s.tick now).env.trace.signals = (code, accepted) :: s.env.trace.signals ∧
          u.device.images.control = if accepted then none else some code) ∧
      (master.control.or pending = none →
        (s.tick now).env.trace.signals = s.env.trace.signals ∧
          u.device.images.control = none) ∧
      u.Pends (s.tick now)) ∧
    (∀ now, (∀ master, ¬s.Closes now master) → s.Pends (s.tick now)) ∧
    (∀ r : Request, r.kind ≠ .access → s.Pends (s.submit r).2) ∧
    pending = s.env.trace.pendingControl ∧
    (∀ code (later earlier : Trace),
      s.env.trace = later ++ .controlOffered code false :: earlier →
      .controlOffered code true ∉ later → later.Lacks Event.endsLink →
      later.Without (Event.supersedes c code) (.controlOffered code false :: earlier) →
      pending = some code ∧
        ∀ now master, s.Closes now master → (∀ other, master.control = some other → other = code) →
          ∃ accepted, (s.tick now).env.trace.signals = (code, accepted) :: s.env.trace.signals) ∧
    ∀ code accepted (between earlier : Trace),
      .controlOffered code accepted :: (between ++ .controlOffered code true :: earlier) <:+
        s.env.trace →
      ∃ e m, e :: m <:+ between ∧
        e.sends c code (m ++ .controlOffered code true :: earlier) = true := by
  intro c pending
  obtain ⟨c', -, run⟩ := h.run
  have law : s.env.trace.Signalled c := run.pending.law.of_bare
  have told : pending = s.env.trace.pendingControl := by
    rw [← pendingControl_bare]
    exact run.pending.control
  refine ⟨fun now master closes => closes.signals run, fun now none => ?_, fun r own => ?_, told,
    fun code later earlier whole untaken kept newest => ?_,
    fun code accepted between earlier offer => ?_⟩
  · obtain ⟨new, trace, withholds, -⟩ := withholds_tick run none
    exact .of_withholds trace withholds
  · obtain ⟨new, trace, withholds, -⟩ := withholds_submit run own
    exact .of_withholds trace withholds
  · rw [whole] at law told
    have waits := told.trans (law.waits untaken kept newest).1
    refine ⟨waits, fun now master closes same => ?_⟩
    have next : master.control.or s.device.images.control = some code := by
      cases sent : master.control with
      | none => exact waits
      | some other => rw [same other sent]; rfl
    obtain ⟨accepted, offered, -⟩ := (closes.signals run).1 code next
    exact ⟨accepted, offered⟩
  · by_contra unsent
    have new : between.Without (Event.sends c code) (.controlOffered code true :: earlier) :=
      fun e m latest => Bool.not_eq_true _ ▸ fun sent => unsent ⟨e, m, latest, sent⟩
    have law' : Signalled c (between ++ .controlOffered code true :: earlier) :=
      fun other answer m within =>
        law other answer m (within.trans ((List.suffix_cons ..).trans offer))
    obtain ⟨unpending, unreceived⟩ := law'.settles new
    rcases Option.or_eq_some_iff.1 (law code accepted _ offer) with received | ⟨-, waiting⟩
    · exact unreceived received
    · exact unpending waiting

/-- The application refuses the reset that the master asks for. The next exchange brings no code,
and the reset is offered again. -/
theorem control_acknowledgement_refused :
    let reset : MasterFrame := ⟨some .reset, none, []⟩
    let s := Bench.linked.mapHost fun b =>
      { wire := { b.wire with queue := [.transferComplete reset.encode] }
        program := { b.program with acceptControl := false } }
    Reach s ∧ s.Closes 3000 reset ∧ (s.tick 3000).Closes 4000 ⟨none, none, []⟩ ∧
      (s.tick 3000).env.trace.signals = (.reset, false) :: s.env.trace.signals ∧
      ∃ accepted, ((s.tick 3000).tick 4000).env.trace.signals =
        (.reset, accepted) :: (.reset, false) :: s.env.trace.signals := by
  intro reset s
  have reach : Reach s := Bench.reach_linked.step (.mapHost ..)
  have link : s.device.link = .transferring .com1 := by decide +kernel
  have link' : (s.tick 3000).device.link = .transferring .com1 := by decide +kernel
  have report : (s.tick 3000).env.trace.indication = some (.transferComplete reset.encode) := by
    decide +kernel
  have report' : ((s.tick 3000).tick 4000).env.trace.indication =
      some (.transferComplete (MasterFrame.encode ⟨none, none, []⟩)) := by decide +kernel
  have closes : s.Closes 3000 reset := .valid link report (by decide +kernel) (Nat.zero_le _)
  have closes' : (s.tick 3000).Closes 4000 ⟨none, none, []⟩ :=
    .valid link' report' (by decide +kernel) (Nat.zero_le _)
  have latest : (s.tick 3000).env.trace.signals.head? = some (.reset, false) := by decide +kernel
  have pending : (s.tick 3000).device.images.control = some .reset := by decide +kernel
  obtain ⟨exchange, -⟩ := reach.control_acknowledgement
  obtain ⟨accepted, first, -⟩ := (exchange 3000 reset closes).1 .reset rfl
  rw [first] at latest
  obtain rfl : accepted = false := congrArg Prod.snd (Option.some.inj latest)
  obtain ⟨exchange', -⟩ := (reach.tick 3000).control_acknowledgement
  obtain ⟨again, second, -⟩ := (exchange' 4000 _ closes').1 .reset pending
  exact ⟨reach, closes, closes', first, again, by rw [second, first]⟩

end Session

end Sdci
