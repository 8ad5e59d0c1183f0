import Sdci.Proofs.Outstanding

/-! # The mode of the line

A device knows the mode of its line in three places: the state of the link, the mode that the line
has adopted, and the mode that it has been asked to adopt. The host learns it from confirmations.
All of them agree in every run, whatever modes the transceiver reports.

* `Trace.wireMode`: the mode that the host was told last.
* `Device.Tuned`: the link, the line and the history agree about the mode.
* `Device.adopted`: the mode after a report.
* `Session.Reach.mode_agrees`: the agreement in every run.
-/

namespace Sdci
set_option autoImplicit false

/-! ## What the host is told -/

namespace Event

/-- What a request for the mode returned. -/
def modeSet? : Event → Option (Option Octets)
  | confirmed .setMode (.ok octets) _ => some octets
  | _ => none

/-- The success of a request for the mode or about it. -/
def tellsMode : Event → Bool
  | confirmed kind (.ok _) _ => kind == .setMode || kind == .getMode
  | _ => false

theorem modeSet?_eq_none {e : Event} (h : e.tellsMode = false) : e.modeSet? = none := by
  unfold modeSet?
  split
  · cases h
  · rfl

theorem tellsMode_eq_false {kind : Service} (other : kind = .input ∨ kind ∈ Service.outOfCycle)
    (outcome : Outcome) (a : Bool) : (confirmed kind outcome a).tellsMode = false := by
  cases outcome with
  | error => rfl
  | ok =>
    change (kind == .setMode || kind == .getMode) = false
    revert other
    cases kind <;> decide

end Event

namespace Trace

/-- The octets of the latest confirmed mode. Before the first the line runs in SIO. -/
def wireMode (t : Trace) : Option Octets :=
  (t.findSome? Event.modeSet?).getD (some [Mode.inactive.code])

theorem wireMode_bare (t : Trace) : wireMode (bare t) = wireMode t := by
  have silent (e : Event) (remark : e.isRemark = true) : e.modeSet? = none := by
    cases e <;> first | rfl | cases remark
  rw [wireMode, findSome_bare_of silent, wireMode]

/-- Nothing in a history is about the mode. -/
abbrev Mute (es : Trace) : Prop := es.Lacks Event.tellsMode

theorem Mute.wireMode {es : Trace} (h : es.Mute) (t : Trace) : wireMode (es ++ t) = wireMode t := by
  rw [Trace.wireMode, findSome_append (fun e mem => Event.modeSet?_eq_none (h e mem)) t,
    Trace.wireMode]

/-- What is told about the mode, when asked for it, is `m`. -/
def Answers (m : Mode) (es : Trace) : Prop :=
  ∀ octets a, .confirmed .getMode (.ok octets) a ∈ es → octets = some [m.code]

theorem Answers.append {m : Mode} {es fs : Trace} (h₁ : es.Answers m) (h₂ : fs.Answers m) :
    (es ++ fs).Answers m :=
  fun octets a mem => (List.mem_append.1 mem).elim (h₁ octets a) (h₂ octets a)

theorem Mute.answers {es : Trace} (h : es.Mute) (m : Mode) : es.Answers m := by
  intro octets a mem
  have silent := h _ mem
  cases silent

end Trace

theorem Confirms.mute {cause : Failure} {ks : List Service} {es : Trace}
    (h : Confirms (.error cause) ks es) : es.Mute := by
  intro e mem
  obtain ⟨_, _, rfl⟩ := h.mem mem
  rfl

namespace Device

/-! ## One move -/

/-- What a move tells the host about the mode, if anything. -/
inductive Tells (d : Device) : Phase → Trace → Device → Prop
  | silent {p : Phase} {u : Device} {es : Trace} (mute : es.Mute)
      (kept : u.line.mode = d.line.mode) : Tells d p es u
  | switched {mode : Mode} {es : Trace} (acknowledged : Bool) (mute : es.Mute) :
      Tells d .poll (.confirmed .setMode (.ok (some [mode.code])) acknowledged :: es)
        (d.established mode)
  | asked (acknowledged : Bool) :
      Tells d .work [.confirmed .getMode (.ok (some [d.line.mode.code])) acknowledged]
        { d with slots := d.slots.close .getMode }

theorem Move.tells {c : Config} {p : Phase} {d u : Device} {es t : Trace} (run : Run c d t)
    (h : Move p d es u) : Tells d p es u := by
  cases h with
  | establish link requested lost done =>
    rename_i mode es₁ es₂
    have request := run.heeds mode link
    rw [Slots.among_single, if_pos (Slots.isOpen_of_request? request)] at done
    obtain ⟨a, rfl⟩ := done.single
    have begun : Trace.Mute (es₁ ++ [.linkEvent d.link (.modeConfirmed mode),
        .polled (some (.modeSwitched mode))]) := by
      have lost : es₁.Mute := by
        split at lost
        · cases lost
          exact Trace.lacks_nil
        · exact lost.mute
      simp [lost, Event.tellsMode]
    rw [List.append_assoc]
    exact .switched a begun
  | exchange link decode fits settles delivers signals serves =>
    rename_i v mode frame master i₁ i₂ slots es₁ es₂ es₃ es₄
    have kept : v.line.mode = d.line.mode := by
      rw [settles.eq]
      rfl
    have handed : Trace.Mute (.cycled :: (es₄ ++ (es₃ ++ es₂))) :=
      Trace.lacks_of_unconfirmed (unconfirmed_handed delivers signals serves) fun e none => by
        cases e <;> first | rfl | cases none
    have settled : es₁.Mute := by
      cases settles with
      | cyclic => exact Trace.lacks_nil
      | stray => exact Trace.lacks_nil
      | carried a rides ticket =>
        exact Trace.lacks_cons.2
          ⟨Event.tellsMode_eq_false (run.kind_of_riding rides) _ a, Trace.lacks_nil⟩
    simp only [Trace.lacks_cons, Trace.lacks_append] at handed
    obtain ⟨-, served, signalled, delivered⟩ := handed
    refine .silent ?_ kept
    simp [served, signalled, delivered, settled, Event.tellsMode]
  | retry link mishap =>
    refine .silent ?_ rfl
    cases mishap <;> simp [Event.tellsMode]
  | exhaust link mishap left failed =>
    refine .silent ?_ rfl
    cases mishap <;> simp [Event.tellsMode, failed.mute]
  | fault fatal failed =>
    refine .silent ?_ rfl
    cases fatal <;> simp [Event.tellsMode, failed.mute]
  | answerMode a => exact .asked a
  | switch quiet idle pending failed =>
    refine .silent ?_ rfl
    simp [Event.tellsMode, failed.mute]
  | refuseMode a quiet idle pending failed =>
    refine .silent ?_ rfl
    simp [Event.tellsMode, failed.mute]
  | serve a unhurried link next =>
    rename_i request
    have own := (Slots.request?_of_nextOutOfCycle next).1
    have other := Event.tellsMode_eq_false (.inr own) (d.store.serve request).1 a
    exact .silent (Trace.lacks_cons.2 ⟨other, Trace.lacks_nil⟩) rfl
  | _ => exact .silent (by simp [Event.tellsMode]) rfl

theorem Tells.kept {p : Phase} {d u : Device} {es : Trace} (h : Tells d p es u)
    (other : p ≠ .poll) : u.line.mode = d.line.mode := by
  cases h with
  | silent mute kept => exact kept
  | switched => exact absurd rfl other
  | asked => rfl

/-- The link and the line agree about the mode. -/
structure Tuned (d : Device) : Prop where
  up : ∀ mode, d.link.mode? = some mode → d.line.mode = mode
  sio : d.link = .inactive → d.line.mode = .inactive
  asked : ∀ target, d.link = .switching target → d.line.requested = some target

namespace Tuned

variable {u : Device}

theorem linked {mode : Mode} (up : u.link.mode? = some mode) (own : u.line.mode = mode) :
    u.Tuned := by
  constructor
  · intro other same
    rw [own]
    exact Option.some.inj (up.symm.trans same)
  · intro sio
    rw [sio] at up
    cases up
  · intro target switching
    rw [switching] at up
    cases up

theorem faulted (link : u.link = .fault) : u.Tuned := by
  constructor <;> rw [link] <;> nofun

end Tuned

theorem Move.tuned {p : Phase} {d u : Device} {es : Trace} (h : Move p d es u) (before : d.Tuned) :
    u.Tuned := by
  have own {mode : Mode} (link : d.link = .active mode ∨ d.link = .transferring mode) :
      d.line.mode = mode :=
    before.up mode (by rcases link with link | link <;> rw [link] <;> rfl)
  cases h with
  | establish link requested lost done =>
    rename_i mode es₁ es₂
    cases active : mode.active with
    | true =>
      have up : (d.established mode).link = .active mode := if_pos active
      exact .linked (by rw [up]; rfl) rfl
    | false =>
      have down : (d.established mode).link = .inactive := if_neg (by simp [active])
      have sio : mode = .inactive := by cases mode <;> first | rfl | cases active
      refine ⟨?_, fun _ => sio, ?_⟩ <;> rw [down] <;> nofun
  | exchange link decode fits settles =>
    rw [settles.eq]
    exact .linked rfl (own (.inr link))
  | retry link => exact .linked rfl (own (.inr link))
  | exhaust => exact .faulted rfl
  | fault => exact .faulted rfl
  | switch =>
    refine ⟨nofun, nofun, fun target switching => ?_⟩
    cases switching
    rfl
  | launch unhurried link => exact .linked rfl (own (.inl link))
  | _ => exact ⟨before.up, before.sio, before.asked⟩

/-! ## Phases and runs -/

theorem Run.tuned {c : Config} {d : Device} {t : Trace} (h : Run c d t) : d.Tuned := by
  induction h with
  | start => exact ⟨nofun, fun _ => rfl, nofun⟩
  | move before last ih => exact last.tuned ih

theorem Run.wireMode_eq {c : Config} {d : Device} {t : Trace} (h : Run c d t) :
    t.wireMode = some [d.line.mode.code] := by
  induction h with
  | start => rfl
  | move before last ih =>
    cases last.tells before with
    | silent mute kept => rw [mute.wireMode, kept, ih]
    | switched => rfl
    | asked => exact ih

theorem Tells.answers {p : Phase} {d u : Device} {es : Trace} {m : Mode} (h : Tells d p es u)
    (own : p = .work → d.line.mode = m) : es.Answers m := by
  cases h with
  | silent mute => exact mute.answers m
  | switched a mute =>
    intro octets b mem
    rcases List.mem_cons.1 mem with head | rest
    · cases head
    · exact mute.answers m octets b rest
  | asked a =>
    intro octets b mem
    cases List.mem_singleton.1 mem
    rw [own rfl]

theorem Moves.mode_eq {c : Config} {p : Phase} {d u : Device} {es t : Trace} (run : Run c d t)
    (h : Moves p d es u) (other : p ≠ .poll) : u.line.mode = d.line.mode := by
  induction h with
  | refl => rfl
  | tail before last ih => rw [(last.tells (run.moves before)).kept other, ih]

theorem Moves.answers {c : Config} {p : Phase} {d u : Device} {es t : Trace} {m : Mode}
    (run : Run c d t) (h : Moves p d es u) (own : p = .work → d.line.mode = m) :
    es.Answers m := by
  induction h with
  | refl => exact Trace.Mute.answers Trace.lacks_nil m
  | tail before last ih =>
    rename_i v w es fs
    have still (work : p = .work) : v.line.mode = m := by
      subst work
      rw [before.mode_eq run nofun, own rfl]
    exact ((last.tells (run.moves before)).answers still).append ih

/-- The mode after a report: only the mode that a switch under way awaits is adopted. -/
def adopted (d : Device) : Option Indication → Mode
  | some (.modeSwitched mode) => if d.link = .switching mode then mode else d.line.mode
  | _ => d.line.mode

theorem Move.mode_eq_adopted {d u : Device} {es : Trace} (h : Move .poll d es u) (tuned : d.Tuned)
    (t : Trace) : u.line.mode = d.adopted (Trace.indication (es ++ t)) := by
  cases h with
  | silence => rfl
  | ignore useless =>
    rename_i i
    cases i with
    | modeSwitched mode =>
      have still : d.link ≠ .switching mode := by
        intro link
        rw [link] at useless
        cases useless
      exact (if_neg still).symm
    | _ => rfl
  | establish link requested lost done =>
    rename_i mode es₁ es₂
    rw [List.append_assoc, (done.upcalls.append lost.upcalls).indication]
    exact (if_pos link).symm
  | exchange link decode fits settles delivers signals serves =>
    rename_i v mode frame master i₁ i₂ slots es₁ es₂ es₃ es₄
    obtain ⟨upcalls, called, whole⟩ := upcalls_exchange settles delivers signals serves
      [.linkEvent d.link .transferSucceeded, .polled (some (.transferComplete frame))] t
    rw [whole, called.indication, settles.eq]
    rfl
  | retry link mishap => cases mishap <;> rfl
  | exhaust link mishap left failed =>
    rw [List.append_assoc, failed.upcalls.indication]
    cases mishap <;> rfl
  | fault fatal failed =>
    rw [List.append_assoc, failed.upcalls.indication]
    cases fatal with
    | wrongMode link wrong =>
      rename_i target mode
      have still : d.link ≠ .switching mode := by
        intro same
        have requested := tuned.asked mode same
        obtain rfl : target = mode := Link.switching.inj (link.symm.trans same)
        rcases wrong with other | other
        · exact other rfl
        · exact other requested
      exact (if_neg still).symm
    | _ => rfl

/-- Timers and the dispatch work come after the report of a tick. -/
theorem Move.indication {p : Phase} {d u : Device} {es : Trace} (h : Move p d es u)
    (later : p = .expiry ∨ p = .work) (t : Trace) :
    Trace.indication (es ++ t) = t.indication := by
  cases h with
  | grant | refuse | clock | silence | ignore | establish | exchange => simp at later
  | retry link mishap =>
    cases mishap with
    | unanswered => rfl
    | _ => simp at later
  | exhaust link mishap left failed =>
    rw [List.append_assoc, failed.upcalls.indication]
    cases mishap with
    | unanswered => rfl
    | _ => simp at later
  | fault fatal failed =>
    rw [List.append_assoc, failed.upcalls.indication]
    cases fatal with
    | unsupervised => rfl
    | _ => simp at later
  | switch quiet idle pending failed => exact failed.upcalls.indication t
  | refuseMode a quiet idle pending failed => exact failed.upcalls.indication t
  | _ => rfl

theorem Moves.indication {p : Phase} {d u : Device} {es : Trace} (h : Moves p d es u)
    (later : p = .expiry ∨ p = .work) (t : Trace) :
    Trace.indication (es ++ t) = t.indication := by
  induction h with
  | refl => rfl
  | tail before last ih => rw [List.append_assoc, last.indication later, ih]

end Device

/-! ## Whole runs -/

namespace Session

open Device

variable {σ : Type} {s t : Session σ} {c : Config}

theorem Performs.answers {p : Phase} {m : Mode} (h : Performs p s t)
    (run : Run c s.device s.env.trace.bare) (own : p = .work → s.mode = m) :
    ∃ new, t.env.trace.bare = new ++ s.env.trace.bare ∧ new.Answers m := by
  obtain ⟨es, trace, moves⟩ := h
  exact ⟨es, trace, moves.answers run own⟩

theorem Performs.mode_eq {p : Phase} (h : Performs p s t) (run : Run c s.device s.env.trace.bare)
    (other : p ≠ .poll) : t.mode = s.mode := by
  obtain ⟨es, -, moves⟩ := h
  exact moves.mode_eq run other

theorem Performs.indication {p : Phase} (h : Performs p s t) (later : p = .expiry ∨ p = .work) :
    t.env.trace.indication = s.env.trace.indication := by
  obtain ⟨es, trace, moves⟩ := h
  rw [← Trace.indication_bare t.env.trace, ← Trace.indication_bare s.env.trace, trace]
  exact moves.indication later _

variable [Transceiver σ] [Application σ]

theorem Step.answers (h : Step s t) (run : Run c s.device s.env.trace.bare) :
    ∃ new, t.env.trace.bare = new ++ s.env.trace.bare ∧ new.Answers t.mode := by
  cases h with
  | tick now =>
    obtain ⟨entered, polled, expired, worked⟩ := s.performs_tick now
    have run₁ := entered.performs.run run
    have run₂ := polled.performs.run run₁
    have run₃ := expired.run run₂
    have still := worked.mode_eq run₃ nofun
    obtain ⟨es₁, trace₁, answers₁⟩ := entered.performs.answers run nofun
    obtain ⟨es₂, trace₂, answers₂⟩ := polled.performs.answers run₁ nofun
    obtain ⟨es₃, trace₃, answers₃⟩ := expired.answers run₂ nofun
    obtain ⟨es₄, trace₄, answers₄⟩ := worked.answers run₃ fun _ => still.symm
    refine ⟨es₄ ++ (es₃ ++ (es₂ ++ es₁)), by simp [*], ?_⟩
    exact answers₄.append (answers₃.append (answers₂.append answers₁))
  | submit r own => exact (s.makes_submit own).performs.answers run nofun
  | mapHost f => exact ⟨[], rfl, Trace.Mute.answers Trace.lacks_nil _⟩

theorem mode_tick (run : Run c s.device s.env.trace.bare) (now : Nat) :
    (s.tick now).mode = s.device.adopted (s.tick now).env.trace.indication := by
  obtain ⟨entered, polled, expired, worked⟩ := s.performs_tick now
  have run₁ := entered.performs.run run
  have run₂ := polled.performs.run run₁
  have run₃ := expired.run run₂
  rw [worked.mode_eq run₃ nofun, expired.mode_eq run₂ nofun, worked.indication (.inr rfl),
    expired.indication (.inl rfl)]
  obtain ⟨es, trace, move⟩ := polled
  rw [← Trace.indication_bare, trace]
  exact move.mode_eq_adopted run₁.tuned _

/-- In every run the state of the link, the mode of the line and the mode that the host was told
last agree, and a mode switch under way awaits the mode that was asked for, which can be adopted.
The host is told this mode when it asks for it. Of all reports of the transceiver only the one that
a mode switch awaits changes it. -/
theorem Reach.mode_agrees (h : Reach s) :
    (∀ mode, s.link.mode? = some mode → s.mode = mode) ∧
    (s.link = .inactive → s.mode = .inactive) ∧
    s.env.trace.wireMode = some [s.mode.code] ∧
    (∀ target, s.link = .switching target →
      s.device.line.requested = some target ∧
        ∀ e : Env σ, (s.device.line.commit target e).1 = true) ∧
    (∀ t, Step s t → ∃ new, t.env.trace.bare = new ++ s.env.trace.bare ∧ new.Answers t.mode) ∧
    ∀ now, (s.tick now).mode = s.device.adopted (s.tick now).env.trace.indication := by
  obtain ⟨c, -, run⟩ := h.run
  have tuned := run.tuned
  refine ⟨tuned.up, tuned.sio, ?_, fun target link => ⟨tuned.asked target link, fun e => ?_⟩,
    fun t next => next.answers run, fun now => mode_tick run now⟩
  · rw [← Trace.wireMode_bare]
    exact run.wireMode_eq
  · rw [Line.commit, if_pos (tuned.asked target link)]

/-- The report of another mode, in the middle of an exchange, changes nothing. -/
theorem mode_agrees_unasked :
    let s := Bench.linked.mapHost fun b =>
      { b with wire := { b.wire with queue := [.modeSwitched .com2] } }
    Reach s ∧ (s.tick 3000).env.trace.indication = some (.modeSwitched .com2) ∧
      (s.tick 3000).mode = .com1 := by
  intro s
  have reach : Reach s := Bench.reach_linked.step (.mapHost ..)
  have report : (s.tick 3000).env.trace.indication = some (.modeSwitched .com2) := by
    decide +kernel
  obtain ⟨up, -, -, -, -, after⟩ := reach.mode_agrees
  have mode : s.mode = .com1 := up .com1 (by decide +kernel)
  refine ⟨reach, report, ?_⟩
  have other : s.link ≠ .switching .com2 := by decide +kernel
  rw [after 3000, report]
  exact (if_neg other).trans mode

end Session

end Sdci
