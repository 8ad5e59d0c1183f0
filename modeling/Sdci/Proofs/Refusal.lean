import Sdci.Proofs.Selection

/-! # A transceiver that refuses

Whether a frame or a mode is taken is up to the transceiver. A device that is refused has not begun
anything: the frame is offered again, or chosen anew, and of a mode switch only the request ends.

* `Device.Stays`: a device whose link and kept frame are as they were, unless communication has
  stopped.
* `Session.Between`: what a host does between two ticks.
* `Session.stays_prepare`, `Session.stays_between`: nothing but dispatch work begins anything on an
  idle link.
* `Session.Reach.refusal_harmless`: what a refusal leaves.
-/

namespace Sdci
set_option autoImplicit false

namespace Device

/-! ## What only dispatch work changes -/

/-- The link is as it was, and so is the frame kept, unless communication has stopped. -/
def Stays (d u : Device) : Prop := u.link = .fault ∨ u.link = d.link ∧ u.inFlight = d.inFlight

variable {d u v : Device} {es : Trace} {p : Phase}

namespace Stays

theorem of_same (link : u.link = d.link) (frame : u.inFlight = d.inFlight) : d.Stays u :=
  .inr ⟨link, frame⟩

theorem trans (h₁ : d.Stays v) (h₂ : v.Stays u) : d.Stays u := by
  rcases h₂ with stopped | ⟨link, frame⟩
  · exact .inl stopped
  · rcases h₁ with stopped | ⟨link', frame'⟩
    · exact .inl (link.trans stopped)
    · exact .of_same (link.trans link') (frame.trans frame')

theorem idle (h : d.Stays u) (idle : d.link.idle = true) : u.link.idle = true := by
  rcases h with stopped | ⟨link, -⟩
  · rw [stopped]
    rfl
  · rwa [link]

end Stays

theorem Stays.kept (h : d.Stays u) (sound : u.link ≠ .fault) :
    u.link = d.link ∧ u.inFlight = d.inFlight :=
  h.resolve_left sound

theorem Move.stays (h : Move p d es u) (other : p ≠ .work) (idle : d.link.idle = true) :
    d.Stays u := by
  cases h with
  | establish link => rw [link] at idle; cases idle
  | exchange link => rw [link] at idle; cases idle
  | retry link => rw [link] at idle; cases idle
  | exhaust => exact .inl rfl
  | fault => exact .inl rfl
  | answerMode | switch | refuseMode | serve | drop | launch | busy => exact absurd rfl other
  | grant | refuse | clock | silence | ignore | stale => exact .of_same rfl rfl

theorem Moves.stays (h : Moves p d es u) (other : p ≠ .work) (idle : d.link.idle = true) :
    d.Stays u := by
  induction h with
  | refl => exact .of_same rfl rfl
  | tail before last ih => exact ih.trans (last.stays other (ih.idle idle))

end Device

namespace Session

open Device Trace

variable {σ : Type} {s t : Session σ} {now : Nat}

theorem Performs.stays {p : Phase} (h : Performs p s t) (other : p ≠ .work)
    (idle : s.device.link.idle = true) : s.device.Stays t.device := by
  obtain ⟨es, -, moves⟩ := h
  exact moves.stays other idle

variable [Application σ]

/-- What a host does between two ticks. -/
inductive Between : Session σ → Session σ → Prop
  | submit (s : Session σ) (r : Request) (own : r.kind ≠ .access) : Between s (s.submit r).2
  | mapHost (s : Session σ) (f : σ → σ) : Between s (s.mapHost f)

theorem stays_between (h : Relation.ReflTransGen Between s t)
    (idle : s.device.link.idle = true) : s.device.Stays t.device := by
  induction h with
  | refl => exact .of_same rfl rfl
  | tail earlier next ih =>
    refine ih.trans ?_
    cases next with
    | submit r own => exact (makes_submit _ own).performs.stays nofun (ih.idle idle)
    | mapHost f => exact .of_same rfl rfl

variable [Transceiver σ]

theorem stays_prepare (s : Session σ) (now : Nat) (idle : s.device.link.idle = true) :
    s.device.Stays (s.prepare now).device := by
  obtain ⟨entered, polled, expired, -⟩ := s.performs_tick now
  have entered := entered.performs.stays nofun idle
  have polled := entered.trans (polled.performs.stays nofun (entered.idle idle))
  have attended := polled.trans (expired.stays nofun (polled.idle idle))
  rw [prepare, device_serveMode]
  exact attended

theorem Between.step (h : Between s t) : Step s t := by
  cases h with
  | submit r own => exact .submit s r own
  | mapHost f => exact .mapHost s f

/-! ## Refusals -/

theorem offer_refused {c : Config} (run : Run c s.device s.env.trace.bare) {frame : Octets}
    (made : (s.tick now).env.trace.calls = .transferred frame false :: s.env.trace.calls) :
    ∃ mode out, (s.prepare now).device.link = .active mode ∧ (s.prepare now).device.Chooses out ∧
      frame = out.frame.encode ∧ (s.tick now).device = (s.prepare now).device ∧
      (s.tick now).env.trace.bare = .transferred frame false :: (s.prepare now).env.trace.bare := by
  obtain ⟨later, trace, acts⟩ := acts_of_call run made
  generalize (s.tick now).device = u at acts
  cases acts with
  | busy link settled chosen => exact ⟨_, _, link, chosen, rfl, rfl, trace⟩

theorem stays_of_refused {mode : Mode} {next : Nat}
    (link : (s.prepare now).device.link = .active mode)
    (still : (s.tick now).device = (s.prepare now).device)
    (between : Relation.ReflTransGen Between (s.tick now) t)
    (sound : (t.prepare next).device.link ≠ .fault) :
    (t.prepare next).device.link = .active mode ∧
      (t.prepare next).device.inFlight = (s.prepare now).device.inFlight := by
  have idle : (s.tick now).device.link.idle = true := by
    rw [still, link]
    rfl
  have waited := stays_between between idle
  have stays := waited.trans (t.stays_prepare next (waited.idle idle))
  rw [still] at stays
  obtain ⟨same, frame⟩ := stays.kept sound
  exact ⟨same.trans link, frame⟩

/-- A device whose frame or mode the transceiver refuses is left as it was when its dispatch work
began, but for the request for the mode, which fails alone. In the next tick, whatever the host does
until then, if the link is still up and no mode is asked for, one frame is chosen by the rule and
offered: the same one, octet for octet, if it is kept for another attempt, and otherwise one that is
chosen anew. -/
theorem Reach.refusal_harmless (h : Reach s) (now : Nat) :
    (∀ frame, (s.tick now).env.trace.calls = .transferred frame false :: s.env.trace.calls →
      (s.tick now).device = (s.prepare now).device ∧
      (s.tick now).env.trace.bare = .transferred frame false :: (s.prepare now).env.trace.bare ∧
      ∀ t next, Relation.ReflTransGen Between (s.tick now) t →
        (t.prepare next).link ≠ .fault → .setMode ∉ (t.prepare next).outstanding →
        ∃ choice, (∀ other, (t.prepare next).device.Selects other ↔ other = choice) ∧
          (∀ out, choice.frame? = some out → ∃ accepted, (t.tick next).env.trace.calls =
            .transferred out.frame.encode accepted :: t.env.trace.calls) ∧
          (∀ kept, (s.prepare now).device.inFlight = some kept →
            choice = .again kept ∧ kept.frame.encode = frame) ∧
          ((s.prepare now).device.inFlight = none → ∀ kept, choice ≠ .again kept)) ∧
    ∀ mode, (s.tick now).env.trace.calls = .modeSet mode false :: s.env.trace.calls →
      (s.prepare now).wanted = some mode ∧
      (s.tick now).device = { (s.prepare now).device with
        slots := (s.prepare now).device.slots.close .setMode } ∧
      ∃ acknowledged, (s.tick now).env.trace.bare =
        .confirmed .setMode (.error .badParameter) acknowledged :: .modeSet mode false ::
          (s.prepare now).env.trace.bare := by
  obtain ⟨c, -, run⟩ := h.run
  refine ⟨fun frame made => ?_, fun mode made => ?_⟩
  · obtain ⟨mode, out, link, chosen, rfl, device, trace⟩ := offer_refused run made
    refine ⟨device, trace, fun t next between sound unasked => ?_⟩
    obtain ⟨up, frame⟩ := stays_of_refused link device between sound
    have later := run_steps (Relation.ReflTransGen.mono (fun _ _ => Between.step) _ _ between)
      (run_step (.tick s now) run)
    have settled := pending_setMode_of_unasked unasked
    refine ⟨_, selects_prepare later up, fun next chosen => ?_, fun kept awaits => ?_,
      fun none kept again => ?_⟩
    · obtain ⟨accepted, calls, -⟩ := offered_tick later up settled chosen
      exact ⟨accepted, calls⟩
    · have again := choose_of_kept awaits
      rcases chosen with same | fresh
      · cases again.symm.trans same
        exact ⟨choose_of_kept (frame.trans awaits), rfl⟩
      · cases again.symm.trans fresh
    · cases (choose_again again).symm.trans (frame.trans none)
  · obtain ⟨later, trace, acts⟩ := acts_of_call run made
    generalize (s.tick now).device = u at acts
    cases acts with
    | refuse pending a =>
      refine ⟨?_, rfl, a, trace⟩
      rw [wanted, pending]
      rfl

end Session

/-! ## A transceiver that refuses everything -/

namespace Bench

open Session

/-- A device in COM1 whose frame has failed, on a transceiver that takes nothing any more. -/
def refused : Session Bench := linked.mapHost fun b =>
  { b with wire := { b.wire with
      queue := [.transferFailed .parity], acceptTransfer := false, acceptMode := false } }

/-- The next tick finds a transceiver that takes frames again. -/
def relented : Session Bench := (refused.tick 3000).mapHost fun b =>
  { b with wire := { b.wire with acceptTransfer := true } }

theorem reach_refused : Reach refused := reach_linked.step (.mapHost ..)

end Bench

/-- The frame that was to be sent once more is refused, and offered again in the next tick. A mode
that is asked for instead is refused likewise, and the frame stays. -/
theorem Session.refusal_harmless_refused :
    let s := Bench.refused
    let t := Bench.relented
    let u := (Bench.refused.setMode .com2).2
    let frame := (DeviceFrame.processData false []).encode
    Reach s ∧ Reach u ∧
      (s.tick 3000).env.trace.calls = .transferred frame false :: s.env.trace.calls ∧
      (s.tick 3000).device = (s.prepare 3000).device ∧
      (∃ accepted,
        (t.tick 4000).env.trace.calls = .transferred frame accepted :: t.env.trace.calls) ∧
      (u.tick 3000).env.trace.calls = .modeSet .com2 false :: u.env.trace.calls ∧
      (u.tick 3000).device = { (u.prepare 3000).device with
        slots := (u.prepare 3000).device.slots.close .setMode } := by
  intro s t u frame
  have reach : Reach s := Bench.reach_refused
  have reach' : Reach u := reach.submit ⟨.setMode, .com2⟩ nofun
  obtain ⟨_, -, run⟩ := reach.run
  obtain ⟨_, -, run'⟩ := reach'.run
  have offered : (s.tick 3000).env.trace.calls = .transferred frame false :: s.env.trace.calls :=
    eq_of_last_call run 3000 (by decide +kernel)
      (show _ = some (.inr frame, false) by decide +kernel) rfl
  have asked : (u.tick 3000).env.trace.calls = .modeSet .com2 false :: u.env.trace.calls :=
    eq_of_last_call run' 3000 (by decide +kernel)
      (show _ = some (.inl .com2, false) by decide +kernel) rfl
  obtain ⟨still, -, next⟩ := (reach.refusal_harmless 3000).1 frame offered
  obtain ⟨choice, -, offers, again, -⟩ := next t 4000 (.single (.mapHost ..)) (by decide +kernel)
    (by decide +kernel)
  have awaits : (s.prepare 3000).device.inFlight = some ⟨.processData false [], none⟩ := by
    decide +kernel
  obtain ⟨rfl, -⟩ := again _ awaits
  exact ⟨reach, reach', offered, still, offers _ rfl, asked,
    ((reach'.refusal_harmless 3000).2 .com2 asked).2.1⟩

end Sdci
