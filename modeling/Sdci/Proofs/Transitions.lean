import Sdci.Proofs.Admission

/-! # How the state of the link changes

A step of a device hears a report, serves timers and does its own work, and each of these may move
the link. Together they never leave the table of `Link.Keeps`, except to begin a mode switch that
was asked for and that the transceiver has accepted.

* `Link.Keeps`: what a state can become before another mode switch begins.
* `Event.stalls`: an event that meets a state without a transition for it.
* `Device.Begins`: a mode switch begins.
* `Session.Reach.link_follows_table`: the changes of every step and of every run.
-/

namespace Sdci
set_option autoImplicit false

/-! ## The table -/

namespace Link

def Keeps : Link → Link → Prop
  | inactive, next => next = inactive ∨ next = fault
  | switching target, next =>
    next = switching target ∨ next = fault ∨ target = .inactive ∧ next = inactive ∨
      target.active = true ∧ (next = active target ∨ next = transferring target)
  | active mode, next | transferring mode, next =>
    next = active mode ∨ next = transferring mode ∨ next = fault
  | fault, next => next = fault

namespace Keeps

theorem refl (l : Link) : l.Keeps l := by
  cases l <;> simp [Keeps]

theorem fail (l : Link) : l.Keeps .fault := by
  cases l <;> simp [Keeps]

theorem trans {a b c : Link} (h₁ : a.Keeps b) (h₂ : b.Keeps c) : a.Keeps c := by
  cases a with
  | inactive =>
    rcases h₁ with rfl | rfl
    · exact h₂
    · exact .inr h₂
  | switching target =>
    rcases h₁ with rfl | rfl | ⟨sio, rfl⟩ | ⟨up, rfl | rfl⟩
    · exact h₂
    · exact .inr (.inl h₂)
    · rcases h₂ with rfl | rfl
      · exact .inr (.inr (.inl ⟨sio, rfl⟩))
      · exact fail _
    all_goals
      rcases h₂ with rfl | rfl | rfl
      · exact .inr (.inr (.inr ⟨up, .inl rfl⟩))
      · exact .inr (.inr (.inr ⟨up, .inr rfl⟩))
      · exact fail _
  | active mode | transferring mode =>
    rcases h₁ with rfl | rfl | rfl
    · exact h₂
    · exact h₂
    · exact .inr (.inr h₂)
  | fault =>
    obtain rfl : b = .fault := h₁
    exact h₂

/-- A link that is kept up keeps its mode. -/
theorem mode {l next : Link} (h : l.Keeps next) {mode : Mode} (up : l.mode? = some mode) :
    next.mode? = some mode ∨ next = .fault := by
  cases l with
  | active | transferring =>
    obtain rfl := Option.some.inj up
    rcases h with rfl | rfl | rfl
    · exact .inl rfl
    · exact .inl rfl
    · exact .inr rfl
  | _ => cases up

end Keeps

/-- The mode of an established link is one of the transmission rates. -/
def Rated (l : Link) : Prop := ∀ mode, l.mode? = some mode → mode.active = true

theorem Rated.keeps {l next : Link} (h : l.Rated) (kept : l.Keeps next) : next.Rated := by
  intro mode up
  cases l with
  | inactive => rcases kept with rfl | rfl <;> cases up
  | switching target =>
    rcases kept with rfl | rfl | ⟨-, rfl⟩ | ⟨active, rfl | rfl⟩
    · cases up
    · cases up
    · cases up
    · exact Option.some.inj up ▸ active
    · exact Option.some.inj up ▸ active
  | active own | transferring own =>
    rcases kept with rfl | rfl | rfl
    · exact h mode up
    · exact h mode up
    · cases up
  | fault =>
    obtain rfl : next = .fault := kept
    cases up

end Link

/-! ## Events without a transition -/

namespace Event

/-- A fatal error is an event for every state, also for the one that it leads to. -/
def stalls : Event → Bool
  | linkEvent source event => event != .fatalError && source.next event == source
  | _ => false

def acceptsMode : Event → Bool
  | modeSet _ accepted => accepted
  | _ => false

theorem stalls_eq_false_of_isUpcall {e : Event} (h : e.isUpcall = true) : e.stalls = false := by
  cases e <;> first | rfl | cases h

end Event

namespace Trace

theorem Upcalls.moving {es : Trace} (h : es.Upcalls) : es.Lacks Event.stalls :=
  h.lacks fun _ => Event.stalls_eq_false_of_isUpcall

/-- How many modes the transceiver has accepted. -/
def acceptances (t : Trace) : Nat := t.countP Event.acceptsMode

theorem acceptances_append (es t : Trace) :
    acceptances (es ++ t) = acceptances es + acceptances t := List.countP_append

theorem acceptances_bare (t : Trace) : acceptances (bare t) = acceptances t :=
  countP_bare (fun e remark => by cases e <;> first | rfl | cases remark) t

end Trace

/-! ## One move -/

namespace Slots

theorem pending_of_close {s : Slots} {j k : Service} {t : Ticket k}
    (h : (s.close j).pending k = some t) : s.pending k = some t := by
  by_cases same : k = j
  · subst same
    rw [pending, get_close_self] at h
    cases h
  · rwa [pending, get_close_ne s same] at h

theorem pending_place_ne (s : Slots) {r : Request} {k : Service} (h : k ≠ r.kind) (now : Nat) :
    (s.place r now).pending k = s.pending k := by
  rw [pending, pending, get_place_ne s h]

theorem pending_mark_self (s : Slots) (k : Service) : (s.mark k true).pending k = none := by
  cases get : s.get k <;> simp [pending, get_mark_self, get]

theorem pending_of_mark {s : Slots} {j k : Service} {t : Ticket k}
    (h : (s.mark j true).pending k = some t) : s.pending k = some t := by
  by_cases same : k = j
  · subst same
    rw [pending_mark_self] at h
    cases h
  · rwa [pending, get_mark_ne s same] at h

end Slots

namespace Device

/-- A mode switch begins that was asked for, and the transceiver has accepted the mode. -/
def Begins (d : Device) (es : Trace) (u : Device) : Prop :=
  ∃ ticket : Ticket .setMode, d.slots.pending .setMode = some ticket ∧
    u.link = .switching ticket.payload ∧ .modeSet ticket.payload true ∈ es

theorem Move.keeps_link {p : Phase} {d u : Device} {es : Trace} (h : Move p d es u) :
    d.link.Keeps u.link ∨ p = .work ∧ d.Begins es u := by
  cases h with
  | establish link requested lost done =>
    rename_i mode es₁ es₂
    left
    rw [link]
    cases active : mode.active with
    | true =>
      have up : (d.established mode).link = .active mode := if_pos active
      exact .inr (.inr (.inr ⟨active, .inl up⟩))
    | false =>
      have down : (d.established mode).link = .inactive := if_neg (by simp [active])
      have sio : mode = .inactive := by cases mode <;> first | rfl | cases active
      exact .inr (.inr (.inl ⟨sio, down⟩))
  | exchange link decode fits settles =>
    left
    rw [link, settles.eq]
    exact .inl rfl
  | retry link =>
    left
    rw [link]
    exact .inl rfl
  | exhaust => exact .inl (.fail _)
  | fault => exact .inl (.fail _)
  | switch quiet idle pending failed =>
    exact .inr ⟨rfl, _, pending, rfl, List.mem_cons_of_mem _ List.mem_cons_self⟩
  | launch unhurried link =>
    left
    rw [link]
    exact .inr (.inl rfl)
  | _ => exact .inl (.refl _)

/-- While a mode switch is under way, the dispatch work leaves the link alone. -/
theorem Move.link_eq_of_switching {d u : Device} {es : Trace} (h : Move .work d es u)
    {target : Mode} (switching : d.link = .switching target) : u.link = .switching target := by
  cases h with
  | retry link mishap => cases mishap
  | exhaust link mishap => cases mishap
  | fault fatal => cases fatal
  | answerMode => exact switching
  | switch quiet idle =>
    rw [switching] at idle
    cases idle
  | refuseMode acknowledged quiet idle =>
    rw [switching] at idle
    cases idle
  | serve acknowledged unhurried link => cases switching.symm.trans link
  | drop acknowledged unhurried link => cases switching.symm.trans link
  | launch unhurried link => cases switching.symm.trans link
  | busy => exact switching

theorem pending_of_serves {now : Nat} {s t : Slots} {access : Option Access} {es : Trace}
    {k : Service} (serves : Serves now s access es t) (own : k ≠ .access) :
    t.pending k = s.pending k := by
  cases serves with
  | none => rfl
  | busy => rfl
  | served free answered => exact Slots.pending_place_ne _ own _

/-- Only a request of the host makes the device want a mode. -/
theorem Move.pending_setMode {p : Phase} {d u : Device} {es : Trace} (h : Move p d es u)
    (other : p ≠ .call) {ticket : Ticket .setMode}
    (pending : u.slots.pending .setMode = some ticket) :
    d.slots.pending .setMode = some ticket := by
  cases h with
  | grant => exact absurd rfl other
  | establish =>
    rw [established, Slots.pending, Slots.get_close_self] at pending
    cases pending
  | exchange link decode fits settles delivers signals serves =>
    rename_i v mode frame master i₁ i₂ slots es₁ es₂ es₃ es₄
    have own : Service.setMode ≠ .access := by decide
    have settled := (pending_of_serves serves own).symm.trans pending
    cases settles with
    | cyclic => exact settled
    | stray => exact settled
    | carried => exact Slots.pending_of_close settled
  | exhaust => cases pending
  | fault => cases pending
  | answerMode => exact Slots.pending_of_close pending
  | switch =>
    rw [switched, Slots.pending_mark_self] at pending
    cases pending
  | refuseMode =>
    rw [Slots.pending, Slots.get_close_self] at pending
    cases pending
  | serve => exact Slots.pending_of_close pending
  | drop => exact Slots.pending_of_close pending
  | launch unhurried link chosen =>
    rename_i mode out
    rw [slots_launched] at pending
    cases carries : out.carries with
    | none => rwa [carries] at pending
    | some kind =>
      rw [carries] at pending
      exact Slots.pending_of_mark pending
  | _ => exact pending

/-- Every event that reaches the link finds a transition of its own. -/
theorem Move.moving {p : Phase} {d u : Device} {es : Trace} (h : Move p d es u) :
    es.Lacks Event.stalls := by
  cases h with
  | establish link requested lost done =>
    rename_i mode es₁ es₂
    have moves : d.link.next (.modeConfirmed mode) ≠ d.link := by
      rw [link]
      cases mode <;> nofun
    simp [done.upcalls.moving, lost.upcalls.moving, moves, Event.stalls]
  | exchange link decode fits settles delivers signals serves =>
    have moves : d.link.next .transferSucceeded ≠ d.link := by
      rw [link]
      nofun
    simp [serves.upcalls.moving, signals.upcalls.moving, delivers.upcalls.moving,
      settles.upcalls.moving, moves, Event.stalls]
  | retry link mishap =>
    have moves : d.link.next .recoverableError ≠ d.link := by
      rw [link]
      nofun
    cases mishap <;> simp [moves, Event.stalls]
  | exhaust link mishap left failed =>
    have moves : d.link.next .recoverableError ≠ d.link := by
      rw [link]
      nofun
    cases mishap <;> simp [failed.upcalls.moving, moves, Event.stalls]
  | fault fatal failed => cases fatal <;> simp [failed.upcalls.moving, Event.stalls]
  | switch quiet idle pending failed =>
    rename_i ticket es
    have moves : d.link.next (.modeSetAccepted ticket.payload) ≠ d.link := by
      rw [Link.next_modeSetAccepted idle]
      intro same
      rw [← same] at idle
      cases idle
    simp [failed.upcalls.moving, moves, Event.stalls]
  | refuseMode acknowledged quiet idle pending failed =>
    simp [failed.upcalls.moving, Event.stalls]
  | launch unhurried link =>
    have moves : d.link.next .transferAccepted ≠ d.link := by
      rw [link]
      nofun
    simp [moves, Event.stalls]
  | _ => simp [Event.stalls]

/-! ## Phases -/

theorem Moves.pending_setMode {p : Phase} {d u : Device} {es : Trace} (h : Moves p d es u)
    (other : p ≠ .call) {ticket : Ticket .setMode}
    (pending : u.slots.pending .setMode = some ticket) :
    d.slots.pending .setMode = some ticket := by
  induction h with
  | refl => exact pending
  | tail before last ih => exact ih (last.pending_setMode other pending)

theorem Moves.keeps_link {p : Phase} {d u : Device} {es : Trace} (h : Moves p d es u) :
    d.link.Keeps u.link ∨ p = .work ∧ d.Begins es u := by
  induction h with
  | refl => exact .inl (.refl _)
  | tail before last ih =>
    rename_i v w es fs
    rcases ih with kept | ⟨rfl, ticket, pending, begun, accepted⟩
    · rcases last.keeps_link with still | ⟨rfl, ticket, pending, begun, accepted⟩
      · exact .inl (kept.trans still)
      · have earlier := before.pending_setMode nofun pending
        exact .inr ⟨rfl, ticket, earlier, begun, List.mem_append_left _ accepted⟩
    · have still := last.link_eq_of_switching begun
      exact .inr ⟨rfl, ticket, pending, still, List.mem_append_right _ accepted⟩

/-! ## Whole runs -/

theorem Run.moving {c : Config} {d : Device} {t : Trace} (h : Run c d t) :
    t.Lacks Event.stalls := by
  induction h with
  | start => exact Trace.lacks_nil
  | move before last ih => exact Trace.lacks_append.2 ⟨last.moving, ih⟩

theorem Run.rated {c : Config} {d : Device} {t : Trace} (h : Run c d t) : d.link.Rated := by
  induction h with
  | start =>
    intro mode up
    cases up
  | move before last ih =>
    rcases last.keeps_link with kept | ⟨-, ticket, -, begun, -⟩
    · exact ih.keeps kept
    · intro mode up
      rw [begun] at up
      cases up

end Device

namespace Session

open Device Trace

variable {σ : Type} {s t : Session σ}

/-- A mode switch begins that was asked for before, and the transceiver has accepted the mode
meanwhile. -/
def Begins (s t : Session σ) : Prop :=
  ∃ ticket : Ticket .setMode, s.device.slots.pending .setMode = some ticket ∧
    t.link = .switching ticket.payload ∧
    ∃ new, t.env.trace.bare = new ++ s.env.trace.bare ∧ .modeSet ticket.payload true ∈ new

theorem Performs.keeps_link {p : Phase} (h : Performs p s t) (other : p ≠ .work) :
    s.link.Keeps t.link := by
  obtain ⟨es, -, moves⟩ := h
  rcases moves.keeps_link with kept | ⟨work, -⟩
  · exact kept
  · exact absurd work other

theorem acceptances_le (h : s.env.trace.bare <:+ t.env.trace.bare) :
    s.env.trace.acceptances ≤ t.env.trace.acceptances := by
  rw [← acceptances_bare s.env.trace, ← acceptances_bare t.env.trace]
  exact h.sublist.countP_le

theorem Begins.acceptances_lt (h : Begins s t) :
    s.env.trace.acceptances < t.env.trace.acceptances := by
  obtain ⟨ticket, -, -, new, trace, accepted⟩ := h
  rw [← acceptances_bare s.env.trace, ← acceptances_bare t.env.trace, trace, acceptances_append]
  have some : 0 < acceptances new := List.countP_pos_iff.2 ⟨_, accepted, rfl⟩
  omega

variable [Transceiver σ] [Application σ]

theorem keeps_link_attend (s : Session σ) (now : Nat) : s.link.Keeps (s.attend now).link := by
  obtain ⟨entered, polled, expired, -⟩ := s.performs_tick now
  have entered := entered.performs.keeps_link nofun
  exact entered.trans ((polled.performs.keeps_link nofun).trans (expired.keeps_link nofun))

theorem pending_of_attend {now : Nat} {ticket : Ticket .setMode}
    (pending : (s.attend now).device.slots.pending .setMode = some ticket) :
    s.device.slots.pending .setMode = some ticket := by
  obtain ⟨-, polled, ⟨es, -, expired⟩, -⟩ := s.performs_tick now
  obtain ⟨fs, -, polled⟩ := polled.performs
  exact polled.pending_setMode nofun (expired.pending_setMode nofun pending)

theorem Step.keeps_link (h : Step s t) : s.link.Keeps t.link ∨ Begins s t := by
  cases h with
  | tick now =>
    obtain ⟨-, -, -, es, trace, worked⟩ := s.performs_tick now
    have attended := s.keeps_link_attend now
    rcases worked.keeps_link with kept | ⟨-, ticket, pending, begun, accepted⟩
    · exact .inl (attended.trans kept)
    · obtain ⟨earlier, before⟩ := s.suffix_attend now
      refine .inr ⟨ticket, pending_of_attend pending, begun, es ++ earlier, ?_, ?_⟩
      · rw [List.append_assoc, before]
        exact trace
      · exact List.mem_append_left _ accepted
  | submit r own => exact .inl ((s.makes_submit own).performs.keeps_link nofun)
  | mapHost f => exact .inl (.refl _)

theorem acceptances_le_of_steps (h : Relation.ReflTransGen Step s t) :
    s.env.trace.acceptances ≤ t.env.trace.acceptances := by
  induction h with
  | refl => exact Nat.le_refl _
  | tail earlier next ih => exact Nat.le_trans ih (acceptances_le next.suffix)

/-- As long as the transceiver accepts no mode, the link keeps to what it has. -/
theorem keeps_link_of_steps (h : Relation.ReflTransGen Step s t)
    (still : t.env.trace.acceptances = s.env.trace.acceptances) : s.link.Keeps t.link := by
  induction h with
  | refl => exact .refl _
  | tail earlier next ih =>
    have first := acceptances_le_of_steps earlier
    have last := acceptances_le next.suffix
    rcases next.keeps_link with kept | begun
    · exact (ih (by omega)).trans kept
    · have more := begun.acceptances_lt
      omega

/-- In every run each event but a fatal error finds a transition of its own, and an established link
runs at one of the rates. Each step keeps to the table or, where no mode switch was under way,
begins one that was asked for and that the transceiver has accepted. So without an accepted mode no
link changes its mode, and no fault ends. -/
theorem Reach.link_follows_table (h : Reach s) :
    (∀ source event, .linkEvent source event ∈ s.env.trace →
      event = .fatalError ∨ source.next event ≠ source) ∧
    (∀ mode, s.link.mode? = some mode → mode.active = true) ∧
    (∀ t, Step s t → s.link.Keeps t.link ∨ s.link.isSwitching = false ∧ Begins s t) ∧
    ∀ t, Relation.ReflTransGen Step s t →
      t.env.trace.acceptances = s.env.trace.acceptances →
      s.link.Keeps t.link ∧ (s.link = .fault → t.link = .fault) ∧
        ∀ mode, s.link.mode? = some mode → t.link.mode? = some mode ∨ t.link = .fault := by
  obtain ⟨c, -, run⟩ := h.run
  refine ⟨fun source event mem => ?_, run.rated, fun t next => ?_, fun t later still => ?_⟩
  · have bare : .linkEvent source event ∈ s.env.trace.bare := List.mem_filter.2 ⟨mem, rfl⟩
    have moving := run.moving _ bare
    by_cases fatal : event = .fatalError
    · exact .inl fatal
    · refine .inr fun same => ?_
      simp [Event.stalls, fatal, same] at moving
  · refine next.keeps_link.imp_right fun begun => ⟨?_, begun⟩
    obtain ⟨ticket, pending, -⟩ := begun
    refine Bool.eq_false_iff.2 fun switching => ?_
    have dispatched := (run.booked.marks .setMode).2 (.inr ⟨rfl, switching⟩)
    rw [Slots.isDispatched_of_pending pending] at dispatched
    cases dispatched
  · have kept := keeps_link_of_steps later still
    refine ⟨kept, fun fault => ?_, fun mode up => kept.mode up⟩
    rw [fault] at kept
    exact kept

theorem link_follows_table_asked :
    let s := (Bench.fresh.setMode .com1).2
    Reach s ∧ s.link = .inactive ∧ (s.tick 1000).link = .switching .com1 ∧
      Begins s (s.tick 1000) := by
  intro s
  have reach : Reach s := Bench.reach_fresh.submit ⟨.setMode, .com1⟩ nofun
  have before : s.link = .inactive := rfl
  have after : (s.tick 1000).link = .switching .com1 := by decide +kernel
  refine ⟨reach, before, after, ?_⟩
  rcases reach.link_follows_table.2.2.1 _ (.tick s 1000) with kept | ⟨-, begun⟩
  · rw [before, after] at kept
    rcases kept with same | same <;> cases same
  · exact begun

end Session

end Sdci
