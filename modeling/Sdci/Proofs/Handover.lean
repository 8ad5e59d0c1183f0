import Sdci.Proofs.AccessProtocol
import Sdci.Proofs.Validity

/-! # What is handed to the application, and when

Output data and control codes reach the application in one place, at the end of a valid exchange.
Everywhere else they wait, or are lost with the link.

* `Device.Withholds`: nothing is offered; the output image and the pending control code stay, or
  the link ends and takes them along.
* `Device.Hands`: a move ends an exchange, or it withholds and brings no reply.
* `Device.Around`: what is handed over, in the midst of all that happens at the end of an exchange.
* `Session.withholds_tick`, `Session.withholds_submit`, `Session.Closes.withholds`: the same for the
  steps of a host.
-/

namespace Sdci
set_option autoImplicit false

namespace Event

/-- The application is offered output data or a control code. -/
@[simp] def offers : Event → Bool
  | outputOffered _ _ => true
  | controlOffered _ _ => true
  | _ => false

/-- Communication stops, or a mode switch starts. -/
@[simp] def endsLink : Event → Bool
  | linkEvent _ .fatalError => true
  | linkEvent _ (.modeSetAccepted _) => true
  | _ => false

@[simp] def receives : Event → Bool
  | polled (some (.transferComplete _)) => true
  | _ => false

end Event

/-- The event completes an exchange. -/
def Event.isReply (c : Config) (before : Trace) (e : Event) : Bool := (e.reply? c before).isSome

theorem Event.isReply_eq_false_iff {c : Config} {before : Trace} {e : Event} :
    e.isReply c before = false ↔ e.reply? c before = none := by
  rw [isReply, Option.isSome_eq_false_iff, Option.isNone_iff_eq_none]

theorem Event.isReply_linkEvent (c : Config) (before : Trace) (source : Link)
    (event : Link.Event) : (linkEvent source event).isReply c before = false := rfl

theorem Event.isReply_cycled (c : Config) (before : Trace) :
    cycled.isReply c before = false := rfl

namespace Trace

/-- In the stretch `es`, which came after `t`, no event was of the sort that its history and it
make out. -/
def Without (p : Trace → Event → Bool) (es t : Trace) : Prop :=
  ∀ e m, e :: m <:+ es → p (m ++ t) e = false

section Without

variable {p : Trace → Event → Bool} {es fs t : Trace}

@[simp] theorem without_nil : Without p [] t := fun _ _ latest => nomatch latest.length_le

@[simp] theorem without_cons {e : Event} :
    Without p (e :: es) t ↔ p (es ++ t) e = false ∧ es.Without p t := by
  constructor
  · intro h
    exact ⟨h e es List.suffix_rfl, fun x m latest => h x m (latest.trans (List.suffix_cons e es))⟩
  · rintro ⟨first, rest⟩ x m latest
    rcases List.suffix_cons_iff.1 latest with whole | earlier
    · obtain ⟨rfl, rfl⟩ := List.cons.inj whole
      exact first
    · exact rest x m earlier

theorem without_append : Without p (fs ++ es) t ↔ fs.Without p (es ++ t) ∧ es.Without p t := by
  induction fs with
  | nil => exact (and_iff_right without_nil).symm
  | cons e fs ih =>
    rw [List.cons_append, without_cons, without_cons, ih, List.append_assoc, and_assoc]

end Without

variable {c : Config} {es t : Trace}

theorem replyless_of_lacks (lacks : es.Lacks Event.receives) :
    es.Without (Event.isReply c) t := by
  induction es with
  | nil => exact without_nil
  | cons e es ih =>
    obtain ⟨first, rest⟩ := lacks_cons.1 lacks
    refine without_cons.2 ⟨?_, ih rest⟩
    unfold Event.isReply Event.reply?
    split
    · cases first
    · rfl

theorem replies_append (still : es.Lacks Event.confirmsMode)
    (replyless : es.Without (Event.isReply c) t) : replies c (es ++ t) = replies c t := by
  induction es with
  | nil => rfl
  | cons e es ih =>
    obtain ⟨silent, rest⟩ := lacks_cons.1 still
    obtain ⟨none, earlier⟩ := without_cons.1 replyless
    rw [List.cons_append, replies_cons silent (Event.isReply_eq_false_iff.1 none)]
    exact ih rest earlier

theorem Upcalls.receives (h : es.Upcalls) : es.Lacks Event.receives :=
  h.lacks fun e upcall => by cases e <;> first | rfl | cases upcall

theorem Upcalls.endsLink (h : es.Upcalls) : es.Lacks Event.endsLink :=
  h.lacks fun e upcall => by cases e <;> first | rfl | cases upcall

end Trace

theorem Confirms.unoffering {outcome : Outcome} {ks : List Service} {es : Trace}
    (h : Confirms outcome ks es) : es.Lacks Event.offers := by
  intro e mem
  obtain ⟨_, _, rfl⟩ := h.mem mem
  rfl

/-! ## The parts of an exchange -/

section Parts

variable {p : Event → Bool} {es : Trace}

theorem Settles.lacks {d u : Device} (h : Settles d es u)
    (other : ∀ kind outcome acknowledged, p (.confirmed kind outcome acknowledged) = false) :
    es.Lacks p := by
  intro e mem
  obtain ⟨_, _, _, rfl⟩ := h.mem mem
  exact other ..

theorem Delivers.lacks {data : Octets} {i j : Images} (h : Delivers data i es j)
    (other : ∀ accepted, p (.outputOffered data accepted) = false) : es.Lacks p := by
  intro e mem
  obtain ⟨_, rfl⟩ := h.mem mem
  exact other _

theorem Signals.lacks {received : Option Control} {i j : Images} (h : Signals received i es j)
    (other : ∀ code accepted, p (.controlOffered code accepted) = false) : es.Lacks p := by
  intro e mem
  obtain ⟨_, _, rfl⟩ := h.mem mem
  exact other ..

theorem Serves.lacks {now : Nat} {slots slots' : Slots} {access : Option Access}
    (h : Serves now slots access es slots')
    (read : ∀ index subindex answer, p (.read index subindex answer) = false)
    (write : ∀ index subindex value answer, p (.written index subindex value answer) = false) :
    es.Lacks p := by
  intro e mem
  obtain ⟨_, _, answered⟩ := h.mem mem
  cases answered with
  | read => exact read ..
  | write => exact write ..

end Parts

open Trace

namespace Device

/-! ## Nothing is handed over -/

/-- The application is offered nothing. The output image and the pending control code stay as they
are, unless the link ends: then they are invalid and lost, and of the image only the contents
stay. -/
structure Withholds (d : Device) (es : Trace) (u : Device) : Prop where
  none : es.Lacks Event.offers
  data : es.Lacks Event.confirmsMode → u.images.output.data = d.images.output.data
  unconsumed : u.images.unconsumed = d.images.unconsumed
  stays : es.Lacks Event.endsLink →
    u.images.output.valid = d.images.output.valid ∧ u.images.control = d.images.control
  ends : ¬es.Lacks Event.endsLink → u.images.output.valid = false ∧ u.images.control = Option.none

namespace Withholds

variable {d u v : Device} {es fs : Trace}

theorem offerless (h : d.Withholds es u) : es.Lacks Event.offersOutput := by
  intro e mem
  have silent := h.none e mem
  cases e <;> first | rfl | cases silent

theorem refl (d : Device) : d.Withholds [] d :=
  ⟨lacks_nil, fun _ => rfl, rfl, fun _ => ⟨rfl, rfl⟩, fun lost => absurd lacks_nil lost⟩

theorem trans (h₁ : d.Withholds es u) (h₂ : u.Withholds fs v) : d.Withholds (fs ++ es) v := by
  constructor
  · exact lacks_append.2 ⟨h₂.none, h₁.none⟩
  · intro still
    obtain ⟨later, earlier⟩ := lacks_append.1 still
    exact (h₂.data later).trans (h₁.data earlier)
  · exact h₂.unconsumed.trans h₁.unconsumed
  · intro kept
    obtain ⟨later, earlier⟩ := lacks_append.1 kept
    exact ⟨(h₂.stays later).1.trans (h₁.stays earlier).1,
      (h₂.stays later).2.trans (h₁.stays earlier).2⟩
  · intro lost
    by_cases later : fs.Lacks Event.endsLink
    · have earlier : ¬es.Lacks Event.endsLink := fun kept => lost (lacks_append.2 ⟨later, kept⟩)
      exact ⟨(h₂.stays later).1.trans (h₁.ends earlier).1,
        (h₂.stays later).2.trans (h₁.ends earlier).2⟩
    · exact h₂.ends later

theorem of_same (none : es.Lacks Event.offers) (kept : es.Lacks Event.endsLink)
    (images : u.images = d.images) : d.Withholds es u := by
  refine ⟨none, fun _ => ?_, ?_, fun _ => ?_, fun lost => absurd kept lost⟩ <;> rw [images]
  exact ⟨rfl, rfl⟩

theorem of_lost (none : es.Lacks Event.offers) {e : Event} (mem : e ∈ es)
    (ends : e.endsLink = true) (images : u.images = d.images.invalidate) : d.Withholds es u := by
  refine ⟨none, fun _ => ?_, ?_, fun kept => ?_, fun _ => ?_⟩
  · rw [images]
    rfl
  · rw [images]
    rfl
  · cases (kept e mem).symm.trans ends
  · rw [images]
    exact ⟨rfl, rfl⟩

end Withholds

/-! ## One move -/

/-- A valid frame ends the exchange, or nothing is handed to the application. -/
inductive Hands (d : Device) (p : Phase) (t es : Trace) (u : Device) : Prop
  | closes {mode : Mode} {frame : Octets} {master : MasterFrame} (poll : p = .poll)
      (link : d.link = .transferring mode) (decode : MasterFrame.decode frame = .ok master)
      (fits : master.output.length ≤ d.images.output.maxLength)
      (closing : d.Closing mode frame master es u)
  | nothing (withholds : d.Withholds es u) (replyless : es.Without (Event.isReply d.config) t)

theorem Mishap.reply?_eq_none {d : Device} {p : Phase} {cause : Failure} {e : Event} {c : Config}
    (h : Mishap d p cause e) (t : Trace) : e.reply? c t = none := by
  cases h with
  | garbled decode => simp [Event.reply?, decode]
  | spoilt => rfl
  | unanswered => rfl

/-- An answer that stops communication does not count. -/
theorem Fatal.reply?_eq_none {d : Device} {p : Phase} {cause : Failure} {e : Event} {t : Trace}
    (h : Fatal d p cause e) (told : d.Told t) (limited : d.Limited t) :
    e.reply? d.config t = none := by
  cases h with
  | malformed link decode => simp [Event.reply?, decode]
  | oversized link decode long =>
    rename_i mode frame master
    have limit : d.images.output.maxLength =
        d.config.outputLimit mode (t.negotiated d.config.com) :=
      limited.output mode (by rw [link]; rfl)
    rw [limit] at long
    simp [Event.reply?, told.link, link, decode, Nat.not_le.2 long]
  | _ => rfl

theorem reply?_eq_none_of_ignores {d : Device} {i : Indication} {t : Trace}
    (useless : d.link.ignores i = true) (told : d.Told t) :
    Event.reply? d.config t (.polled (some i)) = none := by
  cases i with
  | transferComplete frame =>
    cases link : d.link <;> simp_all [Link.ignores, Event.reply?, told.link]
  | _ => rfl

theorem Move.hands {p : Phase} {d u : Device} {es t : Trace} (h : Move p d es u)
    (told : d.Told t) (limited : d.Limited t) : d.Hands p t es u := by
  have same (none : es.Lacks Event.offers) (kept : es.Lacks Event.endsLink)
      (unheard : es.Lacks Event.receives) (images : u.images = d.images) : d.Hands p t es u :=
    .nothing (.of_same none kept images) (replyless_of_lacks unheard)
  cases h with
  | ignore useless =>
    have reply := Event.isReply_eq_false_iff.2 (reply?_eq_none_of_ignores useless told)
    exact .nothing (.of_same (by simp) (by simp) rfl) (by simp [reply])
  | establish link requested lost done =>
    rename_i mode es₁ es₂
    have called := done.upcalls.append lost.upcalls
    have kept : Trace.Lacks Event.endsLink (es₂ ++ es₁ ++
        [.linkEvent d.link (.modeConfirmed mode), .polled (some (.modeSwitched mode))]) :=
      lacks_append.2 ⟨called.endsLink, by simp⟩
    refine .nothing ⟨?_, fun still => ?_, rfl, fun _ => ⟨rfl, rfl⟩, fun lost => absurd kept lost⟩
      (replyless_of_lacks (lacks_append.2 ⟨called.receives, by simp⟩))
    · exact lacks_append.2 ⟨lacks_append.2 ⟨done.unoffering, lost.unoffering⟩, by simp⟩
    · simp at still
  | exchange link decode fits settles delivers signals serves =>
    exact .closes rfl link decode fits (.intro settles delivers signals serves)
  | retry link mishap left =>
    rename_i mode cause e
    have reply := Event.isReply_eq_false_iff.2 (mishap.reply?_eq_none (c := d.config) t)
    refine .nothing (.of_same ?_ ?_ rfl)
      (by simp [reply, Event.isReply_linkEvent, Event.isReply_cycled])
    · cases mishap <;> simp
    · cases mishap <;> simp
  | exhaust link mishap left failed =>
    rename_i mode cause e es
    have reply := Event.isReply_eq_false_iff.2 (mishap.reply?_eq_none (c := d.config) t)
    refine .nothing (.of_lost ?_ (e := .linkEvent (.active mode) .fatalError) (by simp) rfl rfl) ?_
    · cases mishap <;> simp [failed.unoffering]
    · exact without_append.2 ⟨replyless_of_lacks failed.upcalls.receives,
        by simp [reply, Event.isReply_linkEvent, Event.isReply_cycled]⟩
  | fault fatal failed =>
    rename_i cause e es
    have reply := Event.isReply_eq_false_iff.2 (fatal.reply?_eq_none told limited)
    refine .nothing (.of_lost ?_ (e := .linkEvent d.link .fatalError) (by simp) rfl rfl) ?_
    · cases fatal <;> simp [failed.unoffering]
    · exact without_append.2 ⟨replyless_of_lacks failed.upcalls.receives,
        by simp [reply, Event.isReply_linkEvent]⟩
  | switch quiet idle pending failed =>
    rename_i ticket es
    refine .nothing (.of_lost (e := .linkEvent d.link (.modeSetAccepted ticket.payload)) ?_ ?_ rfl
      rfl) (replyless_of_lacks ?_)
    · simp [failed.unoffering]
    · simp
    · simp [failed.upcalls.receives]
  | refuseMode a quiet idle pending failed =>
    exact same (by simp [failed.unoffering]) (by simp [failed.upcalls.endsLink])
      (by simp [failed.upcalls.receives]) rfl
  | _ => exact same (by simp) (by simp) (by simp) rfl

/-- A mode is confirmed only by a report in the middle of a mode switch. -/
theorem Move.unconfirming {p : Phase} {d u : Device} {es : Trace} (h : Move p d es u)
    (steady : p = .poll → d.link.isSwitching = false) : es.Lacks Event.confirmsMode := by
  cases h with
  | establish link =>
    have still := steady rfl
    rw [link] at still
    cases still
  | exchange link decode fits settles delivers signals serves =>
    exact unconfirming_exchange settles delivers signals serves
  | retry link mishap => cases mishap <;> simp
  | exhaust link mishap left failed =>
    cases mishap <;> simp [failed.upcalls.unconfirming]
  | fault fatal failed => cases fatal <;> simp [failed.upcalls.unconfirming]
  | switch quiet idle pending failed => simp [failed.upcalls.unconfirming]
  | refuseMode a quiet idle pending failed => simp [failed.upcalls.unconfirming]
  | _ => simp

theorem Run.withholds {c : Config} {p : Phase} {d u : Device} {es t : Trace} (run : Run c d t)
    (h : Move p d es u) (other : p ≠ .poll) : d.Withholds es u := by
  cases h.hands run.told run.limited with
  | closes poll => exact absurd poll other
  | nothing withholds => exact withholds

/-- Apart from reports of the transceiver, nothing is handed over and no mode is confirmed. -/
theorem Moves.withholds {c : Config} {p : Phase} {d u : Device} {es t : Trace} (run : Run c d t)
    (h : Moves p d es u) (other : p ≠ .poll) :
    d.Withholds es u ∧ es.Lacks Event.confirmsMode := by
  induction h with
  | refl => exact ⟨.refl _, lacks_nil⟩
  | tail before last ih =>
    obtain ⟨withholds, still⟩ := ih
    exact ⟨withholds.trans ((run.moves before).withholds last other),
      lacks_append.2 ⟨last.unconfirming fun poll => absurd poll other, still⟩⟩

namespace Closing

variable {d u : Device} {mode : Mode} {frame : Octets} {master : MasterFrame} {es : Trace}

theorem first (h : d.Closing mode frame master es u) :
    es.getLast? = some (.polled (some (.transferComplete frame))) := by
  cases h with
  | intro =>
    simp only [← List.append_assoc, ← List.cons_append, List.getLast?_append,
      List.getLast?_cons_cons, List.getLast?_singleton, Option.some_or]

theorem unconfirming (h : d.Closing mode frame master es u) : es.Lacks Event.confirmsMode := by
  cases h with
  | intro settles delivers signals serves =>
    exact unconfirming_exchange settles delivers signals serves

theorem replies {t : Trace} (h : d.Closing mode frame master es u) (told : d.Told t)
    (limited : d.Limited t) (link : d.link = .transferring mode)
    (decode : MasterFrame.decode frame = .ok master)
    (fits : master.output.length ≤ d.images.output.maxLength) :
    Trace.replies d.config (es ++ t) = master :: Trace.replies d.config t := by
  cases h with
  | intro settles delivers signals serves =>
    exact replies_exchange told limited link decode fits settles delivers signals serves

end Closing

/-- The history of an exchange with this frame. All of a sort that it tells of is in `part`. -/
inductive Around (d : Device) (frame : Octets) (p : Event → Bool) (part : Trace) : Trace → Prop
  | intro {after before : Trace} (later : after.Lacks p) (earlier : before.Lacks p)
      (called : Trace.Upcalls (after ++ before)) :
      Around d frame p part
        (after ++ (part ++ (before ++
          [.linkEvent d.link .transferSucceeded, .polled (some (.transferComplete frame))])))

end Device

namespace Session

open Device

variable {σ : Type} {s t : Session σ} {now : Nat} {c : Config}

theorem Performs.withholds {p : Phase} (h : Performs p s t) (other : p ≠ .poll)
    (run : Run c s.device s.env.trace.bare) :
    ∃ new, t.env.trace.bare = new ++ s.env.trace.bare ∧ s.device.Withholds new t.device ∧
      new.Lacks Event.confirmsMode := by
  obtain ⟨es, trace, moves⟩ := h
  exact ⟨es, trace, Moves.withholds run moves other⟩

variable [Application σ]

theorem withholds_submit (run : Run c s.device s.env.trace.bare) {r : Request}
    (own : r.kind ≠ .access) :
    ∃ new, (s.submit r).2.env.trace.bare = new ++ s.env.trace.bare ∧
      s.device.Withholds new (s.submit r).2.device ∧ new.Lacks Event.confirmsMode :=
  (s.makes_submit own).performs.withholds nofun run

variable [Transceiver σ] {master : MasterFrame}

/-- A tick in which no valid frame ends an exchange hands nothing over. -/
theorem withholds_tick (run : Run c s.device s.env.trace.bare)
    (none : ∀ master, ¬s.Closes now master) :
    ∃ new, (s.tick now).env.trace.bare = new ++ s.env.trace.bare ∧
      s.device.Withholds new (s.tick now).device ∧
      (s.device.link.isSwitching = false → new.Lacks Event.confirmsMode) := by
  obtain ⟨entered, polled, expired, worked⟩ := s.performs_tick now
  have run₁ := entered.performs.run run
  have run₂ := polled.performs.run run₁
  have run₃ := expired.run run₂
  obtain ⟨es₁, trace₁, withholds₁, still₁⟩ := entered.performs.withholds nofun run
  obtain ⟨es₃, trace₃, withholds₃, still₃⟩ := expired.withholds nofun run₂
  obtain ⟨es₄, trace₄, withholds₄, still₄⟩ := worked.withholds nofun run₃
  obtain ⟨es₂, trace₂, move⟩ := polled
  have withholds₂ : (s.enterTick now).device.Withholds es₂ ((s.enterTick now).poll now).device := by
    cases move.hands run₁.told run₁.limited with
    | closes poll link decode fits closing =>
      have first := move.first_poll (s.enterTick now).env.trace.bare
      rw [← trace₂, indication_bare, ← indication_tick, closing.first, Option.some.injEq,
        Event.polled.injEq] at first
      exact absurd (.valid link first.symm decode fits) (none _)
    | nothing withholds => exact withholds
  refine ⟨es₄ ++ (es₃ ++ (es₂ ++ es₁)), by simp [*], ?_, fun steady => ?_⟩
  · exact ((withholds₁.trans withholds₂).trans withholds₃).trans withholds₄
  · exact lacks_append.2 ⟨still₄, lacks_append.2 ⟨still₃, lacks_append.2
      ⟨move.unconfirming fun _ => steady, still₁⟩⟩⟩

/-- What a valid frame hands over is all that its tick hands over. -/
theorem Closes.withholds (h : s.Closes now master) (run : Run c s.device s.env.trace.bare) :
    ∃ fs, ((s.enterTick now).poll now).device.Withholds fs (s.tick now).device ∧
      fs.Lacks Event.confirmsMode ∧
      (s.tick now).env.trace.bare = fs ++ ((s.enterTick now).poll now).env.trace.bare := by
  obtain ⟨entered, polled, -, -⟩ := s.performs_tick now
  obtain ⟨fs, work, trace⟩ := h.works run
  have run' := polled.performs.run (entered.performs.run run)
  obtain ⟨withholds, still⟩ := Moves.withholds run' work nofun
  exact ⟨fs, withholds, still, trace⟩

end Session

end Sdci
