import Sdci.Proofs.KeptFrame

/-! # What a link has negotiated

The communication parameters can be replaced while a link is up. The link keeps to those it was made
with: the longest input data are settled when the mode is confirmed.

* `Device.Move.request?_of_open`: an open request was open before, or has just been granted.
* `Trace.com`, `Trace.negotiated`: the communication parameters after a history, and at the latest
  confirmation of a mode in it.
* `Device.Run.governed`: the store follows the one, the input image the other.
-/

namespace Sdci
set_option autoImplicit false

/-! ## Where an open request comes from -/

namespace Device

theorem request?_of_survivors {d : Device} {k : Service} {r : Request}
    (h : d.survivors.request? k = some r) : d.slots.request? k = some r := by
  unfold survivors at h
  split at h
  · exact Slots.request?_of_takeWhere h
  · exact h

theorem request?_of_settles {d u : Device} {es : Trace} {k : Service} {r : Request}
    (settles : Settles d es u) (h : u.slots.request? k = some r) : d.slots.request? k = some r := by
  cases settles with
  | cyclic => exact h
  | stray => exact h
  | carried => exact Slots.request?_of_close h

theorem request?_of_serves {now : Nat} {s t : Slots} {access : Option Access} {es : Trace}
    {k : Service} (serves : Serves now s access es t) (own : k ≠ .access) :
    t.request? k = s.request? k := by
  cases serves with
  | none => rfl
  | busy => rfl
  | served free answered => exact Slots.request?_place_ne _ own _

theorem Move.request?_of_open {p : Phase} {d u : Device} {es : Trace} {k : Service} {r : Request}
    (h : Move p d es u) (isOpen : u.slots.request? k = some r) (own : k ≠ .access) :
    d.slots.request? k = some r ∨ p = .call ∧ es = [.requested r (.ok ())] := by
  cases h with
  | grant other granted =>
    rename_i new
    by_cases same : k = new.kind
    · subst same
      rw [Slots.request?, Slots.get_place_self] at isOpen
      cases isOpen
      exact .inr ⟨rfl, rfl⟩
    · left
      rwa [← Slots.request?_place_ne _ same d.lastTick]
  | establish link requested lost done =>
    rename_i mode es₁ es₂
    have before := Slots.request?_of_close isOpen
    left
    cases active : mode.active with
    | true => rwa [if_pos active] at before
    | false =>
      rw [if_neg (by simp [active])] at before
      exact Slots.request?_of_takeWhere before
  | exchange link decode fits settles delivers signals serves =>
    have settled := (request?_of_serves serves own).symm.trans isOpen
    have before := request?_of_settles settles settled
    exact .inl before
  | exhaust => cases k <;> cases isOpen
  | fault => cases k <;> cases isOpen
  | switch =>
    have before : (d.survivors.requeue.mark .setMode true).request? k = some r := isOpen
    rw [Slots.request?_mark, Slots.request?_requeue] at before
    exact .inl (request?_of_survivors before)
  | refuseMode => exact .inl (request?_of_survivors (Slots.request?_of_close isOpen))
  | answerMode => exact .inl (Slots.request?_of_close isOpen)
  | serve => exact .inl (Slots.request?_of_close isOpen)
  | drop => exact .inl (Slots.request?_of_close isOpen)
  | launch unhurried link chosen =>
    rename_i mode out
    have before : (d.launched mode out).slots.request? k = some r := isOpen
    left
    rw [slots_launched] at before
    cases carries : out.carries with
    | none => rwa [carries] at before
    | some kind =>
      rw [carries] at before
      exact (Slots.request?_mark ..).symm.trans before
  | _ => exact .inl isOpen

end Device

/-! ## Communication parameters in a history -/

/-- The communication parameters that a request asks for. -/
@[simp] def Request.com? : Request → Option Com
  | ⟨.setCom, com⟩ => some com
  | _ => none

namespace Event

/-- What a granted request asks for. -/
@[simp] def com? : Event → Option Com
  | requested r (.ok _) => r.com?
  | _ => none

/-- The request for new communication parameters is fulfilled. -/
@[simp] def storesCom : Event → Bool
  | confirmed kind (.ok _) _ => kind == .setCom
  | _ => false

@[simp] def confirmsMode : Event → Bool
  | linkEvent _ (.modeConfirmed _) => true
  | _ => false

/-- An event that has nothing to do with communication parameters. -/
@[simp] def Neutral (e : Event) : Prop :=
  e.com? = none ∧ e.storesCom = false ∧ e.confirmsMode = false

theorem storesCom_eq_false {kind : Service} (other : kind ≠ .setCom) (outcome : Outcome)
    (a : Bool) : (confirmed kind outcome a).storesCom = false := by
  cases outcome <;> simp [other]

theorem neutral_of_isRemark {e : Event} (remark : e.isRemark = true) : e.Neutral := by
  cases e <;> first | exact ⟨rfl, rfl, rfl⟩ | cases remark

theorem plain_com : Plain com? := by
  rintro e (remark | upcall) <;> cases e <;> first | rfl | contradiction

end Event

namespace Trace

/-- The communication parameters that were asked for last. -/
def asked (t : Trace) : Option Com := t.findSome? Event.com?

/-- The communication parameters after a history that began with `start`. A request that is
fulfilled is the latest one, because no other can be made while it is open. -/
def com (start : Com) : Trace → Com
  | [] => start
  | e :: t => if e.storesCom then (asked t).getD (com start t) else com start t

/-- The communication parameters when a mode was last confirmed. -/
def negotiated (start : Com) : Trace → Com
  | [] => start
  | e :: t => if e.confirmsMode then com start t else negotiated start t

variable (start : Com)

def Neutral (es : Trace) : Prop := ∀ e ∈ es, e.Neutral

@[simp] theorem neutral_nil : Neutral [] := List.forall_mem_nil _

@[simp] theorem neutral_cons {e : Event} {es : Trace} :
    Neutral (e :: es) ↔ e.Neutral ∧ Neutral es := List.forall_mem_cons

@[simp] theorem neutral_append {es fs : Trace} : Neutral (es ++ fs) ↔ Neutral es ∧ Neutral fs :=
  List.forall_mem_append

theorem Neutral.cons {e : Event} (h : e.Neutral) (t : Trace) :
    asked (e :: t) = asked t ∧ com start (e :: t) = com start t ∧
      negotiated start (e :: t) = negotiated start t := by
  obtain ⟨asks, stores, confirms⟩ := h
  rw [asked, List.findSome?_cons, asks, com, stores, negotiated, confirms]
  exact ⟨rfl, rfl, rfl⟩

theorem Neutral.append {es : Trace} (h : es.Neutral) (t : Trace) :
    asked (es ++ t) = asked t ∧ com start (es ++ t) = com start t ∧
      negotiated start (es ++ t) = negotiated start t := by
  induction es with
  | nil => exact ⟨rfl, rfl, rfl⟩
  | cons e es ih =>
    obtain ⟨first, rest⟩ := neutral_cons.1 h
    obtain ⟨asked₁, com₁, negotiated₁⟩ := ih rest
    obtain ⟨asked₂, com₂, negotiated₂⟩ := Neutral.cons start first (es ++ t)
    exact ⟨asked₂.trans asked₁, com₂.trans com₁, negotiated₂.trans negotiated₁⟩

theorem com_confirmed {kind : Service} (other : kind ≠ .setCom) (outcome : Outcome) (a : Bool)
    (t : Trace) : com start (.confirmed kind outcome a :: t) = com start t := by
  rw [com, Event.storesCom_eq_false other]
  rfl

theorem com_bare (t : Trace) : com start (bare t) = com start t := by
  induction t with
  | nil => rfl
  | cons e t ih =>
    cases remark : e.isRemark with
    | true =>
      rw [bare_cons_remark remark, ih]
      exact (Neutral.cons start (Event.neutral_of_isRemark remark) t).2.1.symm
    | false => rw [bare_cons remark, com, com, ih, asked, findSome_bare Event.plain_com, ← asked]

theorem negotiated_bare (t : Trace) : negotiated start (bare t) = negotiated start t := by
  induction t with
  | nil => rfl
  | cons e t ih =>
    cases remark : e.isRemark with
    | true =>
      rw [bare_cons_remark remark, ih]
      exact (Neutral.cons start (Event.neutral_of_isRemark remark) t).2.2.symm
    | false => rw [bare_cons remark, negotiated, negotiated, ih, com_bare]

end Trace

theorem Confirms.neutral_error {cause : Failure} {ks : List Service} {es : Trace}
    (h : Confirms (.error cause) ks es) : es.Neutral := by
  intro e mem
  obtain ⟨_, _, rfl⟩ := h.mem mem
  exact ⟨rfl, rfl, rfl⟩

theorem Confirms.neutral {outcome : Outcome} {ks : List Service} {es : Trace}
    (h : Confirms outcome ks es) (other : .setCom ∉ ks) : es.Neutral := by
  induction h with
  | nil => exact Trace.neutral_nil
  | cons acknowledged rest ih =>
    rename_i kind ks es
    obtain ⟨differs, others⟩ := not_or.1 (mt List.mem_cons.2 other)
    have last : (Event.confirmed kind outcome acknowledged).Neutral :=
      ⟨rfl, Event.storesCom_eq_false (Ne.symm differs) outcome acknowledged, rfl⟩
    exact Trace.neutral_append.2 ⟨ih others, Trace.neutral_cons.2 ⟨last, Trace.neutral_nil⟩⟩

open Trace

/-! ## What the store holds -/

section Stored

variable {start : Com} {t : Trace} {r : Request}

theorem com_complete {s : Store} (stored : s.com = t.com start)
    (asks : r.kind = .setCom → t.asked = r.com?) (a : Bool) :
    (s.complete r).2.com = Trace.com start (.confirmed r.kind (s.complete r).1 a :: t) := by
  obtain ⟨kind, content⟩ := r
  cases kind with
  | setCom =>
    rw [Trace.com, asks rfl]
    rfl
  | _ => exact stored

theorem com_serve {s : Store} (stored : s.com = t.com start)
    (asks : r.kind = .setCom → t.asked = r.com?) (a : Bool) :
    (s.serve r).2.com = Trace.com start (.confirmed r.kind (s.serve r).1 a :: t) := by
  unfold Store.serve
  split
  · exact stored
  · exact com_complete stored asks a

theorem com_completion {d : Device} (stored : d.store.com = t.com start)
    (asks : r.kind = .setCom → t.asked = r.com?) (a : Bool) :
    (d.completion r).2.store.com =
      Trace.com start (.confirmed r.kind (d.completion r).1 a :: t) := by
  obtain ⟨kind, content⟩ := r
  cases kind with
  | input =>
    cases image : d.images.input.store content with
    | ok input =>
      rw [Device.completion_input_ok image]
      exact stored
    | error cause =>
      rw [Device.completion_input_error image]
      exact stored
  | event => exact stored
  | access =>
    have other : Service.access ≠ .setCom := nofun
    exact stored.trans (com_confirmed start other (Answer.outcome content) a t).symm
  | _ => exact com_complete stored asks a

end Stored

/-- The most input data in a mode under these communication parameters. -/
def Config.inputLimit (c : Config) (m : Mode) (com : Com) : Nat :=
  min (c.ceiling m) com.inputLength.toNat

namespace Device

/-! ## One move -/

/-- The history tells the communication parameters, and those that the link was made with. -/
structure Governed (d : Device) (t : Trace) : Prop where
  stored : d.store.com = t.com d.config.com
  asks : ∀ r, d.slots.request? .setCom = some r → t.asked = r.com?
  installed : ∀ mode, d.link.mode? = some mode →
    d.images.input.maxLength = d.config.inputLimit mode (t.negotiated d.config.com)

theorem Governed.neutral {p : Phase} {d u : Device} {es t : Trace} (h : d.Governed t)
    (move : Move p d es u) (neutral : es.Neutral) (store : u.store = d.store)
    (size : ∀ mode, u.link.mode? = some mode →
      d.link.mode? = some mode ∧ u.images.input.maxLength = d.images.input.maxLength) :
    u.Governed (es ++ t) := by
  obtain ⟨asked, com, negotiated⟩ := neutral.append d.config.com t
  refine ⟨?_, fun r isOpen => ?_, fun mode link => ?_⟩
  · rw [store, move.config_eq, com, h.stored]
  · rcases move.request?_of_open isOpen nofun with before | ⟨-, rfl⟩
    · rw [asked, h.asks r before]
    · obtain ⟨kind, com⟩ := r
      obtain rfl : kind = .setCom := Slots.kind_of_request? isOpen
      cases (neutral _ List.mem_cons_self).1
  · obtain ⟨same, kept⟩ := size mode link
    rw [kept, move.config_eq, negotiated, h.installed mode same]

/-- The longest input data stay what they are while an exchange is settled. -/
theorem maxLength_of_settles {d u : Device} {es : Trace} (h : Settles d es u) :
    u.images.input.maxLength = d.images.input.maxLength := by
  cases h with
  | cyclic => rfl
  | stray => rfl
  | carried a rides ticket =>
    rename_i kind request
    unfold completion
    split
    · rename_i data
      cases stored : d.images.input.store data with
      | error cause => rfl
      | ok input =>
        obtain ⟨-, rfl⟩ := Image.store_eq_ok_iff.1 stored
        rfl
    · rfl
    · rfl
    · rfl

theorem input_of_delivers {data : Octets} {i j : Images} {es : Trace} (h : Delivers data i es j) :
    j.input = i.input := by cases h <;> rfl

theorem input_of_signals {received : Option Control} {i j : Images} {es : Trace}
    (h : Signals received i es j) : j.input = i.input := by cases h <;> rfl

theorem neutral_of_upcalls {es : Trace} (h : es.Upcalls)
    (unconfirmed : ∀ e ∈ es, e.confirmation? = none) : es.Neutral := by
  intro e mem
  have upcall := h e mem
  have none := unconfirmed e mem
  cases e
  case confirmed => cases none
  all_goals first | exact ⟨rfl, rfl, rfl⟩ | cases upcall

/-- A confirmed mode is negotiated with the communication parameters of the moment. -/
theorem Governed.established {d : Device} {mode : Mode} {es t : Trace} (h : d.Governed t)
    (neutral : es.Neutral)
    (kept : ∀ r, (d.established mode).slots.request? .setCom = some r →
      d.slots.request? .setCom = some r) :
    (d.established mode).Governed
      (es ++ (.linkEvent d.link (.modeConfirmed mode) :: .polled (some (.modeSwitched mode)) ::
        t)) := by
  obtain ⟨asked, com, negotiated⟩ := neutral.append d.config.com
    (.linkEvent d.link (.modeConfirmed mode) :: .polled (some (.modeSwitched mode)) :: t)
  refine ⟨h.stored.trans com.symm, fun r isOpen => ?_, fun other up => ?_⟩
  · exact asked.trans (h.asks r (kept r isOpen))
  · obtain rfl : other = mode := by
      unfold Device.established at up
      cases active : mode.active <;> simp_all [Link.mode?]
    have installed : (d.established other).images.input.maxLength =
      d.config.inputLimit other d.store.com := rfl
    rw [installed, h.stored]
    exact congrArg _ negotiated.symm

/-- A completed request leaves the communication parameters that its confirmation tells of. -/
theorem Governed.completed {d u : Device} {mode : Mode} {output : Octets} {i : Indication}
    {r : Request} {a : Bool} {es t : Trace} (h : d.Governed t)
    (ticket : d.slots.request? r.kind = some r) (neutral : es.Neutral)
    (config : u.config = d.config)
    (store : u.store = ((d.succeeded mode output).completion r).2.store)
    (kept : ∀ r, u.slots.request? .setCom = some r → d.slots.request? .setCom = some r)
    (size : ∀ mode, u.link.mode? = some mode →
      d.link.mode? = some mode ∧ u.images.input.maxLength = d.images.input.maxLength) :
    u.Governed (es ++ (.confirmed r.kind ((d.succeeded mode output).completion r).1 a ::
      .linkEvent d.link .transferSucceeded :: .polled (some i) :: t)) := by
  let begun : Trace := .linkEvent d.link .transferSucceeded :: .polled (some i) :: t
  have stored : (d.succeeded mode output).store.com = begun.com d.config.com := h.stored
  have asks : r.kind = .setCom → begun.asked = r.com? := fun same => h.asks r (same ▸ ticket)
  obtain ⟨asked, com, negotiated⟩ := neutral.append d.config.com
    (.confirmed r.kind ((d.succeeded mode output).completion r).1 a :: begun)
  refine ⟨?_, fun other isOpen => ?_, fun other up => ?_⟩
  · rw [config, store, com_completion stored asks a]
    exact com.symm
  · exact asked.trans (h.asks other (kept other isOpen))
  · obtain ⟨same, still⟩ := size other up
    rw [config, still, h.installed other same]
    exact congrArg _ negotiated.symm

theorem Move.governed {p : Phase} {d u : Device} {es t : Trace} (h : Move p d es u)
    (before : d.Governed t) : u.Governed (es ++ t) := by
  have move := h
  have kept (later : p ≠ .call) (r : Request) (isOpen : u.slots.request? .setCom = some r) :
      d.slots.request? .setCom = some r :=
    (h.request?_of_open isOpen nofun).resolve_right fun called => later called.1
  cases h with
  | grant own granted =>
    rename_i r
    obtain ⟨kind, content⟩ := r
    cases kind with
    | setCom =>
      refine ⟨before.stored, fun r isOpen => ?_, before.installed⟩
      cases isOpen
      rfl
    | _ => exact before.neutral move (by simp) rfl fun _ link => ⟨link, rfl⟩
  | establish link requested lost done =>
    rename_i mode es₁ es₂
    have only : Service.setCom ∉ d.slots.among [.setMode] := by
      intro mem
      cases List.mem_singleton.1 (List.mem_filter.1 mem).1
    rw [List.append_assoc]
    exact before.established (neutral_append.2 ⟨done.neutral only, lost.neutral_error⟩) (kept nofun)
  | exchange link decode fits settles delivers signals serves =>
    rename_i v mode frame master i₁ i₂ slots es₁ es₂ es₃ es₄
    -- Only the confirmation of the request that rode on the answered frame matters.
    have handed : Neutral (.cycled :: (es₄ ++ (es₃ ++ es₂))) :=
      neutral_of_upcalls (List.forall_mem_cons.2
        ⟨rfl, serves.upcalls.append (signals.upcalls.append delivers.upcalls)⟩)
        (unconfirmed_handed delivers signals serves)
    have input : i₂.input = v.images.input :=
      (input_of_signals signals).trans (input_of_delivers delivers)
    have active : v.link = .active mode := by
      rw [settles.eq]
      rfl
    have size (other : Mode) (up : v.link.mode? = some other) :
        d.link.mode? = some other ∧ i₂.input.maxLength = d.images.input.maxLength := by
      rw [active] at up
      rw [link, input, maxLength_of_settles settles]
      exact ⟨up, rfl⟩
    have quiet (none : es₁ = []) (store : v.store = d.store) := before.neutral move
      (by subst none; simpa using handed) store size
    cases settles with
    | cyclic => exact quiet rfl rfl
    | stray => exact quiet rfl rfl
    | carried acknowledged rides ticket =>
      rename_i kind request
      obtain rfl := Slots.kind_of_request? ticket
      have completed := before.completed (a := acknowledged) (i := .transferComplete frame)
        ticket handed move.config_eq rfl (kept nofun) size
      simpa using completed
  | retry link mishap left =>
    refine before.neutral move ?_ rfl fun mode active => ⟨?_, rfl⟩
    · cases mishap <;> simp
    · rw [link]
      exact active
  | exhaust link mishap left failed =>
    refine before.neutral move ?_ rfl nofun
    cases mishap <;> simp [failed.neutral_error]
  | fault fatal failed =>
    refine before.neutral move ?_ rfl nofun
    cases fatal <;> simp [failed.neutral_error]
  | switch quiet idle pending failed =>
    refine before.neutral move ?_ rfl nofun
    simp [failed.neutral_error]
  | refuseMode acknowledged quiet idle pending failed =>
    refine before.neutral move ?_ rfl fun _ link => ⟨link, rfl⟩
    simp [failed.neutral_error]
  | serve acknowledged unhurried link next =>
    rename_i request
    obtain ⟨-, ticket⟩ := Slots.request?_of_nextOutOfCycle next
    refine ⟨com_serve before.stored (fun same => ?_) acknowledged, fun r isOpen => ?_,
      fun mode away => ?_⟩
    · rw [same] at ticket
      exact before.asks request ticket
    · exact before.asks r (kept nofun r isOpen)
    · have away : d.link.mode? = some mode := away
      rw [link] at away
      cases away
  | launch unhurried link chosen =>
    refine before.neutral move ?_ rfl fun mode active => ⟨?_, rfl⟩
    · simp
    · rw [link]
      exact active
  | _ => exact before.neutral move (by simp) rfl fun _ link => ⟨link, rfl⟩

theorem Run.governed {c : Config} {d : Device} {t : Trace} (h : Run c d t) : d.Governed t := by
  induction h with
  | start => exact ⟨rfl, nofun, nofun⟩
  | move before last ih => exact last.governed ih

end Device

end Sdci
