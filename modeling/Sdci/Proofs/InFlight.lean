import Sdci.Proofs.Run.Dispatch

/-! # The frame in flight

What a device remembers of the exchange it is in: the state of the link, the frame kept for another
attempt, the failures counted, and the request that rides on the frame. They agree in every state
of every run.

* `Device.riding`: the kind of the request that rides on the frame in flight.
* `Link.Engages`: what a state of the link says about the frame and the failures.
* `Device.Booked`: all that agrees.
* `Session.Reach.in_flight_agrees`: so it is in every run.
-/

namespace Sdci
set_option autoImplicit false

/-! ## Failures counted -/

namespace Retries

theorem count_fail_le {r : Retries} (left : r.left = true) : r.fail.count ≤ r.limit := by
  have below : r.count.toNat < r.limit.toNat := UInt8.lt_iff_toNat_lt.1 (of_decide_eq_true left)
  rw [UInt8.le_iff_toNat_le]
  change (bump8 r.count).toNat ≤ _
  rw [toNat_bump8]
  omega

theorem count_fail_pos (r : Retries) : 0 < r.fail.count := by
  rw [UInt8.lt_iff_toNat_lt]
  change 0 < (bump8 r.count).toNat
  rw [toNat_bump8]
  omega

end Retries

/-! ## What agrees -/

namespace Link

def isSwitching : Link → Bool
  | switching _ => true
  | _ => false

def Engages (l : Link) (frame : Option InFlight) (failures : UInt8) : Prop :=
  match l with
  | transferring _ => frame.isSome
  | active _ => frame.isSome ↔ 0 < failures
  | _ => frame = none ∧ failures = 0

end Link

namespace Device

def riding (d : Device) : Option Service := d.inFlight.bind InFlight.carries

structure Booked (d : Device) : Prop where
  engages : d.link.Engages d.inFlight d.retries.count
  limit : d.retries.limit = d.config.maxRetries
  bounded : d.retries.count ≤ d.retries.limit
  marks : ∀ k, d.slots.isDispatched k = true ↔
    d.riding = some k ∨ k = .setMode ∧ d.link.isSwitching = true

theorem riding_of_inFlight {d : Device} (h : d.inFlight = none) : d.riding = none := by
  rw [riding, h]
  rfl

namespace Booked

variable {d : Device}

theorem isOpen_of_riding (h : d.Booked) {k : Service} (rides : d.riding = some k) :
    d.slots.isOpen k = true :=
  Slots.isOpen_of_isDispatched ((h.marks k).2 (.inl rides))

/-- Without a frame and a mode switch no request is marked. -/
theorem unmarked (h : d.Booked) (frame : d.inFlight = none) (steady : d.link.isSwitching = false)
    (k : Service) : d.slots.isDispatched k = false := by
  refine Bool.eq_false_iff.2 fun dispatched => ?_
  rcases (h.marks k).1 dispatched with rides | ⟨-, switching⟩
  · rw [riding_of_inFlight frame] at rides
    cases rides
  · rw [steady] at switching
    cases switching

/-- Without a link there is no frame. -/
theorem inFlight_of_away (h : d.Booked) (away : d.link.mode? = none) : d.inFlight = none := by
  have engages := h.engages
  cases link : d.link <;> rw [link] at engages away
  case active => cases away
  case transferring => cases away
  all_goals exact engages.1

/-- Slots with the same marks are as good. -/
theorem withSlots (h : d.Booked) {s : Slots}
    (same : ∀ k, s.isDispatched k = d.slots.isDispatched k) : { d with slots := s }.Booked where
  engages := h.engages
  limit := h.limit
  bounded := h.bounded
  marks k := by
    rw [same]
    exact h.marks k

theorem close (h : d.Booked) {j : Service} (unmarked : d.slots.isDispatched j = false) :
    { d with slots := d.slots.close j }.Booked := by
  refine h.withSlots fun k => ?_
  rw [Slots.isDispatched_close]
  by_cases same : k = j
  · subst same
    simp [unmarked]
  · simp [bne_iff_ne.2 same]

end Booked

/-! ## One move -/

theorem choose_again {d : Device} {out : InFlight} (h : d.choose = .again out) :
    d.inFlight = some out := by
  unfold choose at h
  split at h
  · rename_i kept frame
    cases h
    exact frame
  · split at h
    · split at h <;> cases h
    · split at h <;> cases h

theorem choose_fresh {d : Device} {out : InFlight} (h : d.choose = .fresh out) :
    d.inFlight = none ∧ ∀ k, out.carries = some k → d.slots.isOpen k = true := by
  unfold choose at h
  split at h
  · cases h
  · rename_i frame
    refine ⟨frame, fun k carries => ?_⟩
    split at h
    · rename_i ticket pending
      split at h
      · cases h
        cases carries
        exact Slots.isOpen_of_pending pending
      · cases h
    · split at h
      · rename_i request next
        cases h
        cases carries
        exact Slots.isOpen_of_nextOutOfCycle next
      · cases h
        cases carries

theorem choose_tooLong {d : Device} {length : Nat} {cause : Failure}
    (h : d.choose = .tooLong length cause) : d.inFlight = none := by
  unfold choose at h
  split at h
  · cases h
  · assumption

namespace Booked

variable {d : Device}

theorem ofConfig (c : Config) : (Device.ofConfig c).Booked where
  engages := ⟨rfl, rfl⟩
  limit := rfl
  bounded := UInt8.zero_le
  marks k := by
    change Slots.isDispatched {} k = true ↔ none = some k ∨ k = .setMode ∧ false = true
    simp

theorem faulted (limit : d.retries.limit = d.config.maxRetries) : d.faulted.Booked where
  engages := ⟨rfl, rfl⟩
  limit := limit
  bounded := UInt8.zero_le
  marks k := by
    change Slots.isDispatched {} k = true ↔ none = some k ∨ k = .setMode ∧ false = true
    simp

theorem established (h : d.Booked) {mode : Mode} (link : d.link = .switching mode) :
    (d.established mode).Booked := by
  have frame : d.inFlight = none := h.inFlight_of_away (by rw [link]; rfl)
  have steady : (d.established mode).link.isSwitching = false := by
    unfold Device.established
    cases mode.active <;> rfl
  have closed (k : Service) : (d.established mode).slots.isDispatched k = false := by
    unfold Device.established
    rw [Slots.isDispatched_close]
    refine Bool.eq_false_iff.2 fun dispatched => ?_
    obtain ⟨other, kept⟩ := Bool.and_eq_true_iff.1 dispatched
    have before : d.slots.isDispatched k = true := by
      split at kept
      · exact kept
      · rw [Slots.isDispatched_takeWhere] at kept
        exact (Bool.and_eq_true_iff.1 kept).2
    rcases (h.marks k).1 before with rides | ⟨same, -⟩
    · rw [riding_of_inFlight frame] at rides
      cases rides
    · exact bne_iff_ne.1 other same
  refine ⟨?_, h.limit, UInt8.zero_le, fun k => ?_⟩
  · unfold Device.established
    dsimp only
    rw [frame]
    cases mode.active with
    | true => exact ⟨nofun, nofun⟩
    | false => exact ⟨rfl, rfl⟩
  · have rides : (d.established mode).riding = none := riding_of_inFlight frame
    rw [closed, rides, steady]
    simp

theorem failed (h : d.Booked) {mode : Mode} (cause : Failure) (link : d.link = .transferring mode)
    (left : d.retries.left = true) : (d.failed mode cause).Booked := by
  have engages := h.engages
  rw [link] at engages
  refine ⟨?_, h.limit, Retries.count_fail_le left, fun k => ?_⟩
  · exact ⟨fun _ => d.retries.count_fail_pos, fun _ => engages⟩
  · have marks := h.marks k
    rw [link] at marks
    exact marks

theorem unmarked_of_settles (h : d.Booked) {mode : Mode} {output : Octets} {es : Trace}
    {u : Device} (link : d.link = .transferring mode)
    (settles : Settles (d.succeeded mode output) es u) (k : Service) :
    u.slots.isDispatched k = false := by
  have marks := h.marks k
  rw [link] at marks
  refine Bool.eq_false_iff.2 fun dispatched => ?_
  cases settles with
  | cyclic cyclic =>
    rcases marks.1 dispatched with rides | ⟨-, switching⟩
    · exact absurd rides (by rw [show d.riding = none from cyclic]; nofun)
    · cases switching
  | stray carries closed =>
    have isOpen := h.isOpen_of_riding carries
    rw [show d.slots.isOpen _ = false from Slots.isOpen_eq_false_of_request? closed] at isOpen
    cases isOpen
  | carried a carries ticket =>
    rename_i kind request
    rw [Slots.isDispatched_close] at dispatched
    obtain ⟨other, before⟩ := Bool.and_eq_true_iff.1 dispatched
    rcases marks.1 before with rides | ⟨-, switching⟩
    · rw [show d.riding = some kind from carries] at rides
      exact bne_iff_ne.1 other (Option.some.inj rides).symm
    · cases switching

theorem unmarked_of_serves (h : d.Booked) {mode : Mode} {output : Octets} {es fs : Trace}
    {u : Device} {now : Nat} {access : Option Access} {s : Slots}
    (link : d.link = .transferring mode) (settles : Settles (d.succeeded mode output) es u)
    (serves : Serves now u.slots access fs s) (k : Service) : s.isDispatched k = false := by
  have settled := h.unmarked_of_settles link settles k
  cases serves with
  | none => exact settled
  | busy => exact settled
  | served => rw [Slots.isDispatched_place, settled, Bool.and_false]

/-- The end of leftovers takes no mark away: in the fault state there is none. -/
theorem isDispatched_survivors (h : d.Booked) (k : Service) :
    d.survivors.isDispatched k = d.slots.isDispatched k := by
  unfold survivors
  split
  · rename_i fault
    have frame : d.inFlight = none := h.inFlight_of_away (by rw [fault]; rfl)
    have unmarked := h.unmarked frame (by rw [fault]; rfl) k
    rw [Slots.isDispatched_takeWhere, unmarked, Bool.and_false]
  · rfl

theorem switched (h : d.Booked) {target : Mode}
    (isOpen : d.survivors.isOpen .setMode = true) : (d.switched target).Booked := by
  refine ⟨⟨rfl, rfl⟩, h.limit, UInt8.zero_le, fun k => ?_⟩
  change (d.survivors.requeue.mark .setMode true).isDispatched k = true ↔
    none = some k ∨ k = .setMode ∧ true = true
  rw [Slots.isDispatched_mark, Slots.isDispatched_requeue, Slots.isOpen_requeue]
  by_cases same : k = .setMode
  · subst same
    simp [isOpen]
  · simp [same, beq_false_of_ne same]

theorem launched (h : d.Booked) {mode : Mode} {out : InFlight} (link : d.link = .active mode)
    (chosen : d.choose = .again out ∨ d.choose = .fresh out) : (d.launched mode out).Booked := by
  have rider : ∀ k, out.carries = some k → d.slots.isOpen k = true := by
    rcases chosen with again | fresh
    · intro k carries
      refine h.isOpen_of_riding ?_
      rw [riding, choose_again again]
      exact carries
    · exact (choose_fresh fresh).2
  have marked : ∀ k, d.slots.isDispatched k = true → out.carries = some k := by
    intro k dispatched
    rcases (h.marks k).1 dispatched with rides | ⟨-, switching⟩
    · rcases chosen with again | fresh
      · rwa [riding, choose_again again] at rides
      · rw [riding_of_inFlight (choose_fresh fresh).1] at rides
        cases rides
    · rw [link] at switching
      cases switching
  refine ⟨rfl, h.limit, h.bounded, fun k => ?_⟩
  change (d.launched mode out).slots.isDispatched k = true ↔
    out.carries = some k ∨ k = .setMode ∧ false = true
  rw [slots_launched]
  cases carries : out.carries with
  | none =>
    rw [carries] at marked
    constructor
    · intro dispatched
      exact .inl (marked k dispatched)
    · simp
  | some kind =>
    rw [carries] at marked rider
    rw [Option.elim_some, Slots.isDispatched_mark]
    constructor
    · intro dispatched
      rcases Bool.or_eq_true_iff.1 dispatched with now | before
      · rw [beq_iff_eq.1 (Bool.and_eq_true_iff.1 now).1]
        exact .inl rfl
      · exact .inl (marked k before)
    · intro rides
      rcases rides with same | ⟨-, switching⟩
      · cases same
        simp [rider k rfl]
      · cases switching

end Booked

theorem Move.booked {p : Phase} {d u : Device} {es : Trace} (h : Move p d es u)
    (before : d.Booked) : u.Booked := by
  cases h with
  | grant own granted =>
    rename_i r
    have free := Slots.isDispatched_eq_false (isOpen_of_admits granted)
    refine before.withSlots fun k => ?_
    rw [Slots.isDispatched_place]
    by_cases same : k = r.kind
    · subst same
      simp [free]
    · simp [bne_iff_ne.2 same]
  | refuse => exact before
  | clock => exact ⟨before.engages, before.limit, before.bounded, before.marks⟩
  | silence => exact before
  | ignore => exact before
  | establish link => exact before.established link
  | exchange link decode fits settles delivers signals serves =>
    have served := before.unmarked_of_serves link settles serves
    rw [settles.eq]
    refine ⟨⟨nofun, nofun⟩, before.limit, UInt8.zero_le, fun k => ?_⟩
    refine ⟨fun dispatched => ?_, ?_⟩
    · rw [served k] at dispatched
      cases dispatched
    · rintro (rides | ⟨-, switching⟩)
      · cases rides
      · cases switching
  | retry link mishap left =>
    rename_i mode cause e
    have failed := before.failed cause link left
    exact ⟨failed.engages, failed.limit, failed.bounded, failed.marks⟩
  | exhaust => exact .faulted before.limit
  | fault => exact .faulted before.limit
  | stale => exact ⟨before.engages, before.limit, before.bounded, before.marks⟩
  | answerMode acknowledged quiet pending =>
    exact before.close (Slots.isDispatched_of_isPending pending)
  | switch quiet idle pending => exact before.switched (isOpen_survivors pending)
  | refuseMode acknowledged quiet idle pending failed =>
    have kept := before.withSlots before.isDispatched_survivors
    refine kept.close ?_
    rw [before.isDispatched_survivors]
    exact Slots.isDispatched_of_pending pending
  | serve acknowledged unhurried link next =>
    have frame : d.inFlight = none := before.inFlight_of_away (by rw [link]; rfl)
    rename_i request
    have closed := before.close (before.unmarked frame (by rw [link]; rfl) request.kind)
    exact ⟨closed.engages, closed.limit, closed.bounded, closed.marks⟩
  | drop acknowledged unhurried link long =>
    exact before.close (before.unmarked (choose_tooLong long) (by rw [link]; rfl) _)
  | launch unhurried link chosen => exact before.launched link chosen
  | busy => exact before

/-! ## Whole runs -/

theorem Run.booked {c : Config} {d : Device} {t : Trace} (h : Run c d t) : d.Booked := by
  induction h with
  | start => exact .ofConfig c
  | move before last ih => exact last.booked ih

/-- One request rides at most, and on a mode switch none but the one for the mode. -/
theorem Booked.single {d : Device} (h : d.Booked) {j k : Service}
    (hj : d.slots.isDispatched j = true) (hk : d.slots.isDispatched k = true) : j = k := by
  cases switching : d.link.isSwitching with
  | true =>
    have frame : d.inFlight = none := h.inFlight_of_away (by
      cases link : d.link <;> rw [link] at switching <;> first | rfl | cases switching)
    have rides : d.riding = none := riding_of_inFlight frame
    have setMode : ∀ i, d.slots.isDispatched i = true → i = .setMode := by
      intro i dispatched
      rcases (h.marks i).1 dispatched with rider | ⟨same, -⟩
      · rw [rides] at rider
        cases rider
      · exact same
    rw [setMode j hj, setMode k hk]
  | false =>
    have rider : ∀ i, d.slots.isDispatched i = true → d.riding = some i := by
      intro i dispatched
      rcases (h.marks i).1 dispatched with rides | ⟨-, other⟩
      · exact rides
      · rw [switching] at other
        cases other
    exact Option.some.inj ((rider j hj).symm.trans (rider k hk))

end Device

namespace Session

open Device

variable {σ : Type}

theorem device_succeed_kept (s : Session σ) (output : Octets) (now : Nat) :
    (s.succeed output now).device.inFlight = s.device.inFlight ∧
      (s.succeed output now).device.slots = s.device.slots := by
  unfold succeed
  rw [device_update, device_advance]
  exact ⟨rfl, rfl⟩

variable [Application σ]

/-- A settled exchange confirms the request that rode on it. -/
theorem confirmed_of_settle {s u : Session σ} (h : s.device.Booked) {k : Service}
    (rides : s.device.riding = some k) (frame : u.device.inFlight = s.device.inFlight)
    (slots : u.device.slots = s.device.slots) :
    ∃ outcome acknowledged,
      u.settle.env.trace.bare = .confirmed k outcome acknowledged :: u.env.trace.bare := by
  obtain ⟨es, settles, trace⟩ := u.bare_settle
  generalize u.settle.device = v at settles
  have isOpen := h.isOpen_of_riding rides
  have carries : u.device.inFlight.bind InFlight.carries = some k := by
    rw [frame]
    exact rides
  cases settles with
  | cyclic none =>
    rw [carries] at none
    cases none
  | stray some closed =>
    rw [carries] at some
    cases some
    rw [slots] at closed
    rw [Slots.isOpen_eq_false_of_request? closed] at isOpen
    cases isOpen
  | carried acknowledged some ticket =>
    rw [carries] at some
    cases some
    exact ⟨_, acknowledged, trace⟩

/-- The state of the link, the frame in flight, the failures counted and the marks of the open
requests agree. So a valid answer always finds the request that rode on its frame, and no two
requests ride at once. -/
theorem Reach.in_flight_agrees [Transceiver σ] {s : Session σ} (h : Reach s) :
    s.device.link.Engages s.device.inFlight s.device.retries.count ∧
      s.device.retries.count ≤ s.device.config.maxRetries ∧
      (∀ k, s.device.riding = some k → s.device.slots.isOpen k = true) ∧
      (∀ k t, s.device.slots.get k = some t →
        (t.dispatched = true ↔
          (k = .setMode ∧ ∃ target, s.device.link = .switching target) ∨
            s.device.riding = some k)) ∧
      (∀ k (e : Env σ) output now, s.device.riding = some k →
        let u := (stopTimer ⟨s.device, e⟩ .transfer).succeed output now
        ∃ outcome acknowledged,
          u.settle.env.trace.bare = .confirmed k outcome acknowledged :: u.env.trace.bare) ∧
      (∀ j k t u, s.device.slots.get j = some t → s.device.slots.get k = some u →
        t.dispatched = true → u.dispatched = true → j = k) := by
  obtain ⟨c, -, run⟩ := h.run
  have booked := run.booked
  refine ⟨booked.engages, ?_, fun k => booked.isOpen_of_riding, ?_, ?_, ?_⟩
  · rw [← booked.limit]
    exact booked.bounded
  · intro k t get
    have switching :
        s.device.link.isSwitching = true ↔ ∃ target, s.device.link = .switching target := by
      cases s.device.link <;> simp [Link.isSwitching]
    rw [← Slots.isDispatched_of_get get, booked.marks k, switching, or_comm]
  · intro k e output now rides u
    obtain ⟨frame, slots⟩ := (stopTimer ⟨s.device, e⟩ .transfer).device_succeed_kept output now
    exact confirmed_of_settle booked rides frame slots
  · intro j k t u hj hk tj tk
    rw [← Slots.isDispatched_of_get hj] at tj
    rw [← Slots.isDispatched_of_get hk] at tk
    exact booked.single tj tk

theorem in_flight_agrees_exchanging :
    Reach Bench.exchanging ∧ Bench.exchanging.device.riding = some .input ∧
      Bench.exchanging.device.slots.isOpen .input = true ∧
      (∀ t, Bench.exchanging.device.slots.get .event = some t → t.dispatched = false) := by
  have reach := Bench.reach_exchanging
  obtain ⟨-, -, rider, marks, -, -⟩ := reach.in_flight_agrees
  have rides : Bench.exchanging.device.riding = some .input := by decide +kernel
  refine ⟨reach, rides, rider _ rides, fun t get => ?_⟩
  refine Bool.eq_false_iff.2 fun dispatched => ?_
  rcases (marks .event t get).1 dispatched with ⟨other, -⟩ | other
  · cases other
  · rw [rides] at other
    cases other

end Session

end Sdci
