import Sdci.Proofs.Run.Dispatch

/-! # Exactly one confirmation for each request

A request of the host is confirmed once, by the call of its own kind, and until then its kind is
outstanding. The answer to a parameter access is confirmed likewise, once for each access.

* `Event.raises`: what calls for a confirmation of a kind.
* `Device.Move.balance`: one move keeps the account of each kind.
* `Session.Reach.confirmed_once`: the account of a whole run.
-/

namespace Sdci
set_option autoImplicit false

/-! ## What is counted -/

namespace Event

def isRequest (k : Service) : Event → Bool
  | requested r _ => r.kind == k
  | _ => false

/-- The master reads or writes a parameter. -/
def isAccess : Event → Bool
  | read _ _ _ => true
  | written _ _ _ _ => true
  | _ => false

def isConfirmation (k : Service) : Event → Bool
  | confirmed j _ _ => j == k
  | _ => false

def raises (k : Service) (e : Event) : Bool := if k = .access then e.isAccess else e.isRequest k

theorem raises_access : raises .access = isAccess := rfl

theorem raises_of_ne {k : Service} (h : k ≠ .access) : raises k = isRequest k := by
  funext e
  exact if_neg h

@[simp] theorem raises_requested (k : Service) (r : Request) (answer : Except Failure Unit) :
    raises k (.requested r answer) = (k != .access && r.kind == k) := by
  by_cases h : k = .access <;> simp [raises, isRequest, isAccess, h]

/-- Neither calls for a confirmation nor is one. -/
def isSilent : Event → Bool
  | requested _ _ => false
  | read _ _ _ => false
  | written _ _ _ _ => false
  | confirmed _ _ _ => false
  | _ => true

theorem raises_of_isSilent {e : Event} (h : e.isSilent) (k : Service) : raises k e = false := by
  unfold raises
  cases e <;> simp_all [isSilent, isRequest, isAccess]

theorem isConfirmation_of_isSilent {e : Event} (h : e.isSilent) (k : Service) :
    isConfirmation k e = false := by
  cases e <;> simp_all [isSilent, isConfirmation]

theorem isSilent_of_isRemark {e : Event} (h : e.isRemark) : e.isSilent := by
  cases e <;> first | rfl | cases h

theorem isAccess_of_isRemark (e : Event) (h : e.isRemark) : e.isAccess = false :=
  raises_of_isSilent (isSilent_of_isRemark h) .access

end Event

/-! ## Accounts -/

namespace Trace

open Event

/-- The confirmations of a kind that the events `es` call for, and those they contain, make up for
the change from `before` to `after`. -/
def Balances (k : Service) (before : Bool) (es : Trace) (after : Bool) : Prop :=
  es.countP (raises k) + before.toNat = es.countP (isConfirmation k) + after.toNat

variable {k : Service} {a b c : Bool} {es fs : Trace}

theorem balances_nil (k : Service) (a : Bool) : Balances k a [] a := rfl

theorem Balances.append (h₁ : Balances k a es b) (h₂ : Balances k b fs c) :
    Balances k a (fs ++ es) c := by
  unfold Balances at *
  rw [List.countP_append, List.countP_append]
  omega

theorem balances_silent (silent : es.all isSilent = true) : Balances k a es a := by
  have each := List.all_eq_true.1 silent
  unfold Balances
  rw [List.countP_eq_zero.2 fun e mem => by simp [raises_of_isSilent (each e mem)],
    List.countP_eq_zero.2 fun e mem => by simp [isConfirmation_of_isSilent (each e mem)]]

/-- One confirmation closes what was open. -/
theorem balances_confirmed (k j : Service) (outcome : Outcome) (acknowledged : Bool)
    (a : Bool) (isOpen : j = k → a = true) :
    Balances k a [.confirmed j outcome acknowledged] (k != j && a) := by
  unfold Balances
  by_cases h : j = k
  · simp [h, raises, isRequest, isAccess, isConfirmation, isOpen h]
  · have other : (k != j) = true := bne_iff_ne.2 fun e => h e.symm
    simp [h, other, raises, isRequest, isAccess, isConfirmation]

end Trace

open Trace

/-! ## Parts of a move -/

/-- Confirmations answer nothing but what was open, and each kind once. -/
theorem Confirms.counts {outcome : Outcome} {ks : List Service} {es : Trace}
    (h : Confirms outcome ks es) (k : Service) :
    es.countP (Event.raises k) = 0 ∧ es.countP (Event.isConfirmation k) = ks.count k := by
  induction h with
  | nil => exact ⟨rfl, rfl⟩
  | cons a rest ih =>
    rename_i kind ks es
    have raised : Event.raises k (.confirmed kind outcome a) = false := by
      simp [Event.raises, Event.isRequest, Event.isAccess]
    rw [List.countP_append, List.countP_append, ih.1, ih.2, List.count_cons]
    exact ⟨by simp [raised], by simp [List.countP_cons, Event.isConfirmation]⟩

theorem Confirms.balances {outcome : Outcome} {ks : List Service} {es : Trace} {s : Slots}
    (h : Confirms outcome (s.among ks) es) (nodup : ks.Nodup) (k : Service) :
    Balances k (s.isOpen k) es (s.isOpen k && !decide (k ∈ ks)) := by
  obtain ⟨raised, confirmed⟩ := h.counts k
  unfold Balances
  rw [raised, confirmed, Slots.count_among nodup]
  by_cases mem : k ∈ ks <;> simp [mem]

theorem Settles.balances {d u : Device} {es : Trace} (h : Settles d es u) (k : Service) :
    Balances k (d.slots.isOpen k) es (u.slots.isOpen k) := by
  cases h with
  | cyclic => exact balances_nil ..
  | stray => exact balances_nil ..
  | carried acknowledged carries ticket =>
    rename_i kind request
    rw [Slots.isOpen_close]
    refine balances_confirmed _ _ _ _ _ fun same => ?_
    rw [← same]
    exact Slots.isOpen_of_request? ticket

theorem Delivers.balances {data : Octets} {i j : Images} {es : Trace} (h : Delivers data i es j)
    (k : Service) (a : Bool) : Balances k a es a := by
  cases h with
  | empty => exact balances_nil ..
  | unchanged => exact balances_nil ..
  | applied => exact balances_silent rfl
  | rejected => exact balances_silent rfl

theorem Signals.balances {received : Option Control} {i j : Images} {es : Trace}
    (h : Signals received i es j) (k : Service) (a : Bool) : Balances k a es a := by
  cases h with
  | quiet => exact balances_nil ..
  | taken => exact balances_silent rfl
  | refused => exact balances_silent rfl

theorem Access.Answered.counts {access : Access} {e : Event} {answer : Answer}
    (h : access.Answered e answer) (k : Service) :
    Event.raises k e = (k == .access) ∧ Event.isConfirmation k e = false := by
  unfold Event.raises
  cases h <;> by_cases same : k = .access <;>
    simp [same, Event.isAccess, Event.isRequest, Event.isConfirmation]

theorem Serves.balances {now : Nat} {s t : Slots} {access : Option Access} {es : Trace}
    (h : Serves now s access es t) (k : Service) : Balances k (s.isOpen k) es (t.isOpen k) := by
  cases h with
  | none => exact balances_nil ..
  | busy => exact balances_nil ..
  | served free answered =>
    obtain ⟨raised, confirmed⟩ := answered.counts k
    unfold Balances
    rw [List.countP_cons, List.countP_cons, raised, confirmed, Slots.isOpen_place]
    by_cases same : k = .access
    · subst same
      simp [free]
    · simp [beq_false_of_ne same]

namespace Device

/-! ## Requests that end together -/

theorem balances_taken {s : Slots} {select : Service → Bool} {outcome : Outcome} {es : Trace}
    (h : Confirms outcome (s.among (Service.all.filter select)) es) (k : Service) :
    Balances k (s.isOpen k) es ((s.takeWhere select).2.isOpen k) := by
  have distinct : Service.all.Nodup := by decide
  have nodup : (Service.all.filter select).Nodup := distinct.sublist List.filter_sublist
  have balance := h.balances nodup k
  rw [Slots.isOpen_takeWhere]
  simpa [Service.mem_all, Bool.and_comm] using balance

theorem balances_drained {s : Slots} {cause : Failure} {es : Trace}
    (failed : Confirms (.error cause) s.openKinds es) (k : Service) :
    Balances k (s.isOpen k) es (Slots.isOpen {} k) := by
  rw [← s.drain_eq]
  exact balances_taken failed k

theorem balances_survivors {d : Device} {es : Trace}
    (failed : Confirms (.error .notReady) d.leftovers es) (k : Service) :
    Balances k (d.slots.isOpen k) es (d.survivors.isOpen k) := by
  unfold leftovers at failed
  unfold survivors
  split at failed
  · rename_i fault
    rw [if_pos fault]
    exact balances_taken failed k
  · rename_i sound
    cases failed
    rw [if_neg sound]
    exact balances_nil ..

/-- A new mode ends the requests that it cannot serve, and then the request for itself. -/
theorem balances_established {d : Device} {mode : Mode} {es₁ es₂ : Trace}
    (lost : Confirms (.error .notReady)
      (if mode.active then [] else d.slots.among (Service.all.filter Service.needsLink)) es₁)
    (done : Confirms (.ok (some [mode.code])) (d.slots.among [.setMode]) es₂) (k : Service) :
    Balances k (d.slots.isOpen k) (es₂ ++ es₁) ((d.established mode).slots.isOpen k) := by
  have closed (s : Slots) (same : s.isOpen .setMode = d.slots.isOpen .setMode) :
      Balances k (s.isOpen k) es₂ ((s.close .setMode).isOpen k) := by
    rw [Slots.among_single, ← same, ← Slots.among_single] at done
    have balance := done.balances (by decide) k
    rw [Slots.isOpen_close, Bool.and_comm]
    by_cases same : k = .setMode
    · simpa [same] using balance
    · simpa [same, bne_iff_ne.2 same] using balance
  unfold established
  cases active : mode.active with
  | true =>
    rw [active] at lost
    cases lost
    exact (balances_nil ..).append (closed d.slots rfl)
  | false =>
    rw [active] at lost
    refine (balances_taken lost k).append (closed _ ?_)
    rw [Slots.isOpen_takeWhere]
    rfl

/-! ## One move -/

theorem Move.balance {p : Phase} {d u : Device} {es : Trace} (h : Move p d es u) (k : Service) :
    Balances k (d.slots.isOpen k) es (u.slots.isOpen k) := by
  have closes (j : Service) (outcome : Outcome) (a : Bool) (isOpen : d.slots.isOpen j = true) :
      Balances k (d.slots.isOpen k) [.confirmed j outcome a] ((d.slots.close j).isOpen k) := by
    rw [Slots.isOpen_close]
    exact balances_confirmed _ _ _ _ _ fun same => same ▸ isOpen
  cases h with
  | grant own granted =>
    rename_i r
    have free := isOpen_of_admits granted
    unfold Balances
    rw [Slots.isOpen_place]
    by_cases same : k = r.kind
    · subst same
      simp [free, own, Event.isConfirmation]
    · have other : (r.kind == k) = false := beq_false_of_ne fun e => same e.symm
      simp [other, beq_false_of_ne same, Event.isConfirmation]
  | refuse acknowledged own refused =>
    rename_i r cause
    have raised : Event.raises k (.confirmed r.kind (.error cause) acknowledged) = false := by
      simp [Event.raises, Event.isRequest, Event.isAccess]
    unfold Balances
    by_cases same : r.kind = k
    · subst same
      simp [raised, own, Event.isConfirmation]
    · simp [raised, beq_false_of_ne same, Event.isConfirmation]
  | clock => exact balances_silent rfl
  | silence => exact balances_silent rfl
  | ignore => exact balances_silent rfl
  | establish link requested lost done =>
    exact (balances_silent rfl).append (balances_established lost done k)
  | exchange link decode fits settles delivers signals serves =>
    rename_i mode frame master i₁ i₂ slots es₁ es₂ es₃ es₄
    have begun : Balances k (d.slots.isOpen k)
      [.linkEvent d.link .transferSucceeded, .polled (some (.transferComplete frame))]
      (d.slots.isOpen k) := balances_silent rfl
    have ended : Balances k (slots.isOpen k) [.cycled] (slots.isOpen k) := balances_silent rfl
    have settled := begun.append (settles.balances k)
    have delivered := (settled.append (delivers.balances k _)).append (signals.balances k _)
    exact (delivered.append (serves.balances k)).append ended
  | retry link mishap => cases mishap <;> exact balances_silent rfl
  | exhaust link mishap left failed =>
    cases mishap <;> exact (balances_silent rfl).append (balances_drained failed k)
  | fault fatal failed =>
    cases fatal <;> exact (balances_silent rfl).append (balances_drained failed k)
  | stale => exact balances_silent rfl
  | answerMode acknowledged quiet pending =>
    exact closes _ _ _ (Slots.isOpen_of_isPending pending)
  | switch quiet idle pending failed =>
    rename_i ticket es
    have begun : Balances k (d.survivors.isOpen k)
      [.linkEvent d.link (.modeSetAccepted ticket.payload), .modeSet ticket.payload true]
      (d.survivors.isOpen k) := balances_silent rfl
    unfold switched
    rw [Slots.isOpen_mark, Slots.isOpen_requeue]
    exact (balances_survivors failed k).append begun
  | refuseMode acknowledged quiet idle pending failed =>
    rename_i ticket es
    have asked : Balances k (d.survivors.isOpen k) [.modeSet ticket.payload false]
      (d.survivors.isOpen k) := balances_silent rfl
    rw [Slots.isOpen_close]
    exact ((balances_survivors failed k).append asked).append
      (balances_confirmed _ _ _ _ _ fun same => same ▸ isOpen_survivors pending)
  | serve acknowledged unhurried link next =>
    exact closes _ _ _ (Slots.isOpen_of_nextOutOfCycle next)
  | drop acknowledged unhurried link long =>
    exact closes _ _ _ (isOpen_of_tooLong long)
  | launch unhurried link chosen =>
    rw [isOpen_launched]
    exact balances_silent rfl
  | busy => exact balances_silent rfl

/-! ## Whole runs -/

theorem Run.balance {c : Config} {d : Device} {t : Trace} (h : Run c d t) (k : Service) :
    Balances k false t (d.slots.isOpen k) := by
  induction h with
  | start =>
    cases k <;> exact balances_nil _ false
  | move before last ih => exact ih.append (last.balance k)

end Device

namespace Session

variable {σ : Type} [Transceiver σ] [Application σ]

theorem Reach.balance {s : Session σ} (h : Reach s) (k : Service) :
    s.env.trace.countP (Event.raises k) =
      s.env.trace.countP (Event.isConfirmation k) + if k ∈ s.outstanding then 1 else 0 := by
  obtain ⟨c, -, run⟩ := h.run
  have balance := run.balance k
  unfold Balances at balance
  rw [countP_bare fun e he => Event.raises_of_isSilent (Event.isSilent_of_isRemark he) k,
    countP_bare fun e he => Event.isConfirmation_of_isSilent (Event.isSilent_of_isRemark he) k]
    at balance
  have outstanding : (if k ∈ s.outstanding then 1 else 0) = (s.device.slots.isOpen k).toNat := by
    cases isOpen : s.device.slots.isOpen k <;>
      simp [outstanding, Slots.openKinds, Service.mem_all, isOpen]
  rw [outstanding, ← balance]
  rfl

/-- Each request of the host is confirmed once, through its own call, or is still outstanding; so is
the answer to each parameter access of the master. -/
theorem Reach.confirmed_once {s : Session σ} (h : Reach s) :
    (∀ k, k ≠ .access →
      s.env.trace.countP (Event.isRequest k) =
        s.env.trace.countP (Event.isConfirmation k) + if k ∈ s.outstanding then 1 else 0) ∧
      s.env.trace.countP Event.isAccess =
        s.env.trace.countP (Event.isConfirmation .access) +
          if .access ∈ s.outstanding then 1 else 0 := by
  refine ⟨fun k other => ?_, ?_⟩
  · rw [← Event.raises_of_ne other]
    exact h.balance k
  · rw [← Event.raises_access]
    exact h.balance .access

theorem confirmed_once_exchanging :
    Reach Bench.exchanging ∧
      Bench.exchanging.env.trace.countP (Event.isRequest .input) =
        Bench.exchanging.env.trace.countP (Event.isConfirmation .input) + 1 := by
  have reach := Bench.reach_exchanging
  refine ⟨reach, ?_⟩
  have once := reach.confirmed_once.1 .input nofun
  rwa [if_pos (by decide +kernel)] at once

end Session

end Sdci
