import Sdci.Proofs.Run.History

/-! # What a valid answer completes

While a device deals with a valid answer, from the success of the exchange to the call that ends the
cycle, it confirms the request that rode on the answered frame, and no other.

* `Trace.confirmations`, `Trace.completions`: all confirmations, and those made in that time.
* `Device.Move.completes`: what one move completes.
* `Session.Reach.completions_tick`: what one tick completes, and the parameters it leaves.
-/

namespace Sdci
set_option autoImplicit false

namespace Event

def confirmation? : Event → Option (Service × Outcome)
  | confirmed kind outcome _ => some (kind, outcome)
  | _ => none

def succeeds : Event → Bool
  | linkEvent _ .transferSucceeded => true
  | _ => false

/-- Where a device begins to deal with a valid answer, and where it ends. -/
def completing? : Event → Option Bool
  | linkEvent _ .transferSucceeded => some true
  | cycled => some false
  | _ => none

end Event

namespace Trace

/-- All confirmations, latest first. -/
def confirmations (t : Trace) : List (Service × Outcome) := t.filterMap Event.confirmation?

/-- Whether a valid answer is being dealt with. -/
def completing (t : Trace) : Bool := (t.findSome? Event.completing?).getD false

/-- The confirmations made while a valid answer was dealt with, latest first. -/
def completions : Trace → List (Service × Outcome)
  | [] => []
  | e :: t => (if completing t then e.confirmation?.toList else []) ++ completions t

theorem confirmations_append (es t : Trace) :
    confirmations (es ++ t) = confirmations es ++ confirmations t := List.filterMap_append ..

theorem confirmations_bare (t : Trace) : confirmations (bare t) = confirmations t :=
  filterMap_bare (fun e remark => by cases e <;> first | rfl | cases remark) t

theorem confirmations_of_bare {es s t : Trace} (trace : bare t = es ++ bare s) :
    confirmations t = confirmations es ++ confirmations s := by
  rw [← confirmations_bare t, trace, confirmations_append, confirmations_bare]

theorem completing_cons (e : Event) (t : Trace) :
    completing (e :: t) = e.completing?.getD (completing t) := by
  unfold completing
  rw [List.findSome?_cons]
  cases e.completing? <;> rfl

theorem completions_bare (t : Trace) :
    completing (bare t) = completing t ∧ completions (bare t) = completions t := by
  induction t with
  | nil => exact ⟨rfl, rfl⟩
  | cons e t ih =>
    obtain ⟨still, same⟩ := ih
    cases remark : e.isRemark with
    | true =>
      have none : e.completing? = none ∧ e.confirmation? = none := by
        cases e <;> first | exact ⟨rfl, rfl⟩ | cases remark
      rw [bare_cons_remark remark, completing_cons, completions, none.1, none.2]
      simp [still, same]
    | false =>
      rw [bare_cons remark, completing_cons, completing_cons, completions, completions, still, same]
      exact ⟨rfl, rfl⟩

/-- As long as no exchange succeeds, nothing is completed. -/
theorem completions_quiet {es t : Trace} (quiet : ∀ e ∈ es, e.succeeds = false)
    (idle : completing t = false) :
    completing (es ++ t) = false ∧ completions (es ++ t) = completions t := by
  induction es with
  | nil => exact ⟨idle, rfl⟩
  | cons e es ih =>
    obtain ⟨before, same⟩ := ih fun x mem => quiet x (List.mem_cons_of_mem e mem)
    have still := quiet e List.mem_cons_self
    rw [List.cons_append, completing_cons, completions, before, same]
    refine ⟨?_, rfl⟩
    cases e
    case linkEvent source event => cases event <;> first | rfl | cases still
    all_goals rfl

/-- What confirms nothing completes nothing. -/
theorem completions_unconfirmed {es : Trace} (h : ∀ e ∈ es, e.confirmation? = none) (t : Trace) :
    completions (es ++ t) = completions t := by
  induction es with
  | nil => rfl
  | cons e es ih =>
    rw [List.cons_append, completions, h e List.mem_cons_self,
      ih fun x mem => h x (List.mem_cons_of_mem e mem)]
    simp

theorem Upcalls.not_succeeds {es : Trace} (h : es.Upcalls) : ∀ e ∈ es, e.succeeds = false := by
  intro e mem
  have upcall := h e mem
  cases e <;> first | rfl | cases upcall

end Trace

open Trace

/-- What a valid answer completes, with the device before and after. -/
inductive Device.Completes (d u : Device) : Service × Outcome → Prop
  | carried {kind : Service} {request : Request} (rides : d.riding = some kind)
      (ticket : d.slots.request? kind = some request)
      (store : u.store = (d.completion request).2.store) :
      Completes d u (kind, (d.completion request).1)

theorem Settles.completions {d u : Device} {es : Trace} (h : Settles d es u) (source : Link)
    (i : Indication) (t : Trace) :
    let begun : Trace := [.linkEvent source .transferSucceeded, .polled (some i)]
    Trace.completions (es ++ (begun ++ t)) = Trace.completions t ∨
      ∃ c, d.Completes u c ∧ Trace.completions (es ++ (begun ++ t)) = c :: Trace.completions t := by
  intro begun
  have same : Trace.completions (begun ++ t) = Trace.completions t :=
    completions_unconfirmed (by simp [begun, Event.confirmation?]) t
  cases h with
  | cyclic => exact .inl same
  | stray => exact .inl same
  | carried a carries ticket =>
    exact .inr ⟨_, .carried carries ticket rfl, congrArg (_ :: ·) same⟩

/-- What only confirmations do does not happen where nothing is confirmed. -/
theorem Trace.lacks_of_unconfirmed {p : Event → Bool} {es : Trace}
    (h : ∀ e ∈ es, e.confirmation? = none) (other : ∀ e, e.confirmation? = none → p e = false) :
    es.Lacks p :=
  fun e mem => other e (h e mem)

namespace Device

/-! ## One move -/

/-- Nothing is confirmed while output data, a control code and an access are handed on. -/
theorem unconfirmed_handed {u : Device} {output : Octets} {received : Option Control}
    {access : Option Access} {i₁ i₂ : Images} {now : Nat} {slots : Slots} {es₂ es₃ es₄ : Trace}
    (delivers : Delivers output u.images es₂ i₁) (signals : Signals received i₁ es₃ i₂)
    (serves : Serves now u.slots access es₄ slots) :
    ∀ e ∈ .cycled :: (es₄ ++ (es₃ ++ es₂)), e.confirmation? = none := by
  intro e mem
  simp only [List.mem_cons, List.mem_append] at mem
  rcases mem with rfl | served | signalled | delivered
  · rfl
  · obtain ⟨_, _, answered⟩ := serves.mem served
    cases answered <;> rfl
  · obtain ⟨_, _, rfl⟩ := signals.mem signalled
    rfl
  · obtain ⟨_, rfl⟩ := delivers.mem delivered
    rfl

theorem Move.completes {p : Phase} {d u : Device} {es t : Trace} (h : Move p d es u)
    (idle : completing t = false) :
    completing (es ++ t) = false ∧
      (completions (es ++ t) = completions t ∨
        ∃ mode output c, p = .poll ∧ d.link = .transferring mode ∧ u.link = .active mode ∧
          (d.succeeded mode output).Completes u c ∧
          completions (es ++ t) = c :: completions t) := by
  by_cases quiet : ∀ e ∈ es, e.succeeds = false
  · exact (completions_quiet quiet idle).imp_right .inl
  cases h with
  | exchange link decode fits settles delivers signals serves =>
    rename_i v mode frame master i₁ i₂ slots es₁ es₂ es₃ es₄
    have handed := unconfirmed_handed delivers signals serves
    have settled := settles.completions d.link (.transferComplete frame) t
    have whole : .cycled :: (es₄ ++ (es₃ ++ (es₂ ++ (es₁ ++ [.linkEvent d.link .transferSucceeded,
          .polled (some (.transferComplete frame))])))) ++ t =
        (.cycled :: (es₄ ++ (es₃ ++ es₂))) ++ (es₁ ++ ([.linkEvent d.link .transferSucceeded,
          .polled (some (.transferComplete frame))] ++ t)) := by simp
    refine ⟨rfl, ?_⟩
    rw [whole, completions_unconfirmed handed]
    rcases settled with same | ⟨_, ⟨rides, ticket, store⟩, completed⟩
    · exact .inl same
    · refine .inr ⟨mode, master.output, _, rfl, link, ?_, .carried rides ticket store, completed⟩
      rw [settles.eq]
      rfl
  | establish link requested lost done =>
    refine absurd ?_ quiet
    have before := List.forall_mem_append.2
      ⟨done.upcalls.not_succeeds, lost.upcalls.not_succeeds⟩
    exact List.forall_mem_append.2 ⟨before, by simp [Event.succeeds]⟩
  | retry link mishap left =>
    refine absurd ?_ quiet
    cases mishap <;> simp [Event.succeeds]
  | exhaust link mishap left failed =>
    refine absurd (List.forall_mem_append.2 ⟨failed.upcalls.not_succeeds, ?_⟩) quiet
    cases mishap <;> simp [Event.succeeds]
  | fault fatal failed =>
    refine absurd (List.forall_mem_append.2 ⟨failed.upcalls.not_succeeds, ?_⟩) quiet
    cases fatal <;> simp [Event.succeeds]
  | switch calm idle pending failed =>
    refine absurd ?_ quiet
    simpa [Event.succeeds] using failed.upcalls.not_succeeds
  | refuseMode acknowledged calm idle pending failed =>
    refine absurd ?_ quiet
    simpa [Event.succeeds] using failed.upcalls.not_succeeds
  | _ => exact absurd (by simp [Event.succeeds]) quiet

theorem Moves.completions_eq {p : Phase} {d u : Device} {es t : Trace} (h : Moves p d es u)
    (other : p ≠ .poll) (idle : completing t = false) :
    completing (es ++ t) = false ∧ completions (es ++ t) = completions t := by
  induction h with
  | refl => exact ⟨idle, rfl⟩
  | tail before last ih =>
    obtain ⟨still, same⟩ := ih
    rw [List.append_assoc]
    obtain ⟨next, none | ⟨_, _, _, poll, -⟩⟩ := last.completes still
    · exact ⟨next, none.trans same⟩
    · exact absurd poll other

theorem Run.not_completing {c : Config} {d : Device} {t : Trace} (h : Run c d t) :
    completing t = false := by
  induction h with
  | start => rfl
  | move before last ih => exact (last.completes ih).1

/-! ## The parameters afterwards -/

/-- The parameters change in SIO, or by a valid answer. -/
theorem Move.store_eq {p : Phase} {d u : Device} {es : Trace} (h : Move p d es u)
    (other : p ≠ .poll) (away : d.link ≠ .inactive) : u.store = d.store ∧ u.link ≠ .inactive := by
  cases h with
  | establish => exact absurd rfl other
  | exchange => exact absurd rfl other
  | serve acknowledged unhurried link => exact absurd link away
  | retry => exact ⟨rfl, nofun⟩
  | exhaust => exact ⟨rfl, nofun⟩
  | fault => exact ⟨rfl, nofun⟩
  | switch => exact ⟨rfl, nofun⟩
  | launch => exact ⟨rfl, nofun⟩
  | _ => exact ⟨rfl, away⟩

theorem Moves.store_eq {p : Phase} {d u : Device} {es : Trace} (h : Moves p d es u)
    (other : p ≠ .poll) (away : d.link ≠ .inactive) : u.store = d.store ∧ u.link ≠ .inactive := by
  induction h with
  | refl => exact ⟨rfl, away⟩
  | tail before last ih =>
    obtain ⟨same, still⟩ := ih
    obtain ⟨kept, next⟩ := last.store_eq other still
    exact ⟨kept.trans same, next⟩

end Device

namespace Session

open Device

variable {σ : Type}

/-! ## One tick -/

/-- Outside the phase of indications nothing is completed, and with a link the parameters stay. -/
theorem Performs.completes_nothing {p : Phase} {s t : Session σ} (h : Performs p s t)
    (other : p ≠ .poll) (idle : completing s.env.trace = false) :
    (completing t.env.trace = false ∧ t.env.trace.completions = s.env.trace.completions) ∧
      (s.device.link ≠ .inactive →
        t.device.store = s.device.store ∧ t.device.link ≠ .inactive) := by
  obtain ⟨es, trace, moves⟩ := h
  rw [← (completions_bare s.env.trace).1] at idle
  have nothing := moves.completions_eq other idle
  rw [← trace, (completions_bare _).1, (completions_bare _).2, (completions_bare _).2] at nothing
  exact ⟨nothing, moves.store_eq other⟩

variable [Transceiver σ] [Application σ]

/-- A tick completes one request at most, and leaves the parameters as that request does. -/
theorem Reach.completions_tick {s : Session σ} (h : Reach s) (now : Nat) :
    (s.tick now).env.trace.completions = s.env.trace.completions ∨
      ∃ mode output c, s.device.link = .transferring mode ∧
        ((s.enterTick now).device.succeeded mode output).Completes (s.tick now).device c ∧
        (s.tick now).env.trace.completions = c :: s.env.trace.completions := by
  obtain ⟨_, -, run⟩ := h.run
  have idle := run.not_completing
  rw [(completions_bare _).1] at idle
  obtain ⟨entered, ⟨es, polled, move⟩, expired, worked⟩ := s.performs_tick now
  obtain ⟨⟨idle, same⟩, -⟩ := entered.performs.completes_nothing nofun idle
  rw [← (completions_bare _).1] at idle
  obtain ⟨still, settled⟩ := move.completes idle
  rw [← polled, (completions_bare _).1] at still
  rw [← polled, (completions_bare _).2, (completions_bare _).2, same] at settled
  obtain ⟨⟨still, same₁⟩, kept₁⟩ := expired.completes_nothing nofun still
  obtain ⟨⟨-, same₂⟩, kept₂⟩ := worked.completes_nothing nofun still
  rw [same₂, same₁]
  rcases settled with none | ⟨mode, output, c, -, link, active, completes, one⟩
  · exact .inl none
  · obtain ⟨store₁, away⟩ := kept₁ (by rw [active]; nofun)
    obtain ⟨store₂, -⟩ := kept₂ away
    obtain ⟨rides, ticket, store⟩ := completes
    have store := store₂.trans (store₁.trans store)
    exact .inr ⟨mode, output, _, link, .carried rides ticket store, one⟩

end Session

end Sdci
