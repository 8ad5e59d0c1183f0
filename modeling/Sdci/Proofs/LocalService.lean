import Sdci.Proofs.Halt
import Sdci.Proofs.Selection

/-! # What is served without a frame

A question about the mode is answered in every state of the link. In SIO all requests about
parameters are answered from the store, one after the other, as the ledger of the device says.

* `Slots.ending`: open requests that end alike.
* `Slots.forStore`: what a device in SIO has left to its store.
* `Session.slots_serveMode`, `Session.confirmations_serveMode`: the answer about the mode.
* `Session.serveAllLocally_of_parameters`: the answers from the store.
-/

namespace Sdci
set_option autoImplicit false

namespace Slots

theorem eq_empty {s : Slots} (closed : ∀ k, s.isOpen k = false) : s = {} := by
  refine ext_get fun k => ?_
  rw [get_empty]
  exact Option.not_isSome_iff_eq_none.1 (Bool.eq_false_iff.1 (closed k))

/-- The open requests of some kinds, with the outcome that all of them have. -/
def ending (s : Slots) (ks : List Service) (outcome : Outcome) : List (Service × Outcome) :=
  (s.among ks).map fun k => (k, outcome)

theorem ending_single (s : Slots) (k : Service) (outcome : Outcome) :
    s.ending [k] outcome = if s.isOpen k then [(k, outcome)] else [] := by
  rw [ending, among_single]
  split <;> rfl

theorem reverse_ending_single (s : Slots) (k : Service) (outcome : Outcome) :
    (s.ending [k] outcome).reverse = s.ending [k] outcome := by
  rw [ending_single]
  split <;> rfl

theorem request?_takeWhere {s : Slots} {select : Service → Bool} {k : Service}
    (spared : select k = false) : (s.takeWhere select).2.request? k = s.request? k := by
  rw [request?, get_takeWhere, spared]
  rfl

/-- What is left to the store when the requests that need a link, those for the mode, and those
about it are over. -/
def forStore (s : Slots) : Slots :=
  ((s.takeWhere Service.needsLink).2.close .setMode).close .getMode

theorem mem_parameters_of_forStore {s : Slots} {k : Service} (isOpen : s.forStore.isOpen k = true) :
    k ∈ Service.parameters := by
  rw [forStore, isOpen_close, isOpen_close, isOpen_takeWhere] at isOpen
  cases k with
  | setIdent | getIdent | setCom | getCom => decide
  | _ => cases isOpen

theorem parameterRequests_forStore (s : Slots) :
    s.forStore.parameterRequests = s.parameterRequests := by
  have other {k : Service} (h : k = .setMode ∨ k = .getMode) : k ∉ Service.parameters := by
    rcases h with rfl | rfl <;> decide
  have spared : ∀ k ∈ Service.parameters, k.needsLink = false := by decide
  rw [forStore, parameterRequests_close_ne (other (.inr rfl)),
    parameterRequests_close_ne (other (.inl rfl))]
  exact parameterRequests_congr fun k about => request?_takeWhere (spared k about)

end Slots

/-- A question about the mode never rides on a frame. -/
theorem Device.Run.isPending_getMode {c : Config} {d : Device} {t : Trace} (h : Run c d t) :
    d.slots.isPending .getMode = d.slots.isOpen .getMode := by
  rw [Slots.isPending, Slots.pending_eq_get (h.isDispatched_eq_false (.inl rfl))]
  rfl

namespace Session

open Device Trace

variable {σ : Type} [Application σ] {s : Session σ} {c : Config}

/-! ## The mode -/

section Mode

variable (run : Run c s.device s.env.trace.bare)

include run

theorem serveMode_eq :
    s.serveMode = s.finish .getMode (.ok (some [s.device.line.mode.code])) := by
  unfold serveMode
  rw [run.isPending_getMode]
  split
  · rfl
  · rename_i closed
    rw [finish, if_neg closed]

theorem slots_serveMode : s.serveMode.device.slots = s.device.slots.close .getMode := by
  rw [serveMode_eq run, device_finish]

theorem confirmations_serveMode :
    s.serveMode.env.trace.confirmations =
      s.device.slots.ending [.getMode] (.ok (some [s.device.line.mode.code])) ++
        s.env.trace.confirmations := by
  obtain ⟨es, confirms, trace⟩ :=
    s.bare_finish .getMode (.ok (some [s.device.line.mode.code]))
  rw [serveMode_eq run, confirmations_of_bare trace, confirms.confirmations]
  exact congrArg (· ++ _) (Slots.reverse_ending_single ..)

end Mode

/-! ## Parameters -/

theorem confirmations_serveLocally (s : Session σ) {request : Request}
    (isOpen : s.device.slots.isOpen request.kind = true) :
    (s.serveLocally request).env.trace.confirmations =
      (request.kind, (s.device.store.serve request).1) :: s.env.trace.confirmations := by
  obtain ⟨a, trace⟩ := s.bare_serveLocally isOpen
  exact confirmations_of_bare (trace.trans List.singleton_append.symm)

/-- Where no other requests are open than those about parameters, and none rides on anything, all
are answered and closed. -/
theorem serveAllLocally_of_parameters (s : Session σ)
    (only : ∀ k, s.device.slots.isOpen k = true → k ∈ Service.parameters)
    (waits : ∀ k, s.device.slots.isDispatched k = false) :
    s.serveAllLocally.device =
        { s.device with store := s.device.ledger.2, slots := {} } ∧
      s.serveAllLocally.env.trace.confirmations =
        s.device.ledger.1.reverse ++ s.env.trace.confirmations := by
  fun_induction serveAllLocally s with
  | case1 s next =>
    have closed (k : Service) : s.device.slots.isOpen k = false := by
      refine Bool.eq_false_iff.2 fun isOpen => ?_
      have own : k ∈ Service.outOfCycle :=
        List.mem_cons_of_mem _ (List.mem_cons_of_mem _ (only k isOpen))
      have free := Slots.isOpen_eq_false (Slots.pending_of_nextOutOfCycle next own) (waits k)
      cases isOpen.symm.trans free
    have none := ledger_eq_nil_iff.2
      (Slots.parameterRequests_eq_nil_iff.2 fun k _ => closed k)
    have empty := Slots.eq_empty closed
    rw [ledger_of_nil none]
    refine ⟨?_, rfl⟩
    rw [← empty]
  | case2 s request next ih =>
    have isOpen := Slots.isOpen_of_nextOutOfCycle next
    have about := only request.kind isOpen
    obtain ⟨rest, first⟩ := Slots.parameterRequests_of_next waits next about
    have device := s.device_serveLocally request
    have served := s.device.store.serve_eq_complete about
    have ledger : s.device.ledger =
        ((request.kind, (s.device.store.serve request).1) ::
          (s.serveLocally request).device.ledger.1, (s.serveLocally request).device.ledger.2) := by
      rw [device, Device.ledger, Device.ledger, first, served]
      dsimp only
      rw [Slots.parameterRequests_close first]
      rfl
    obtain ⟨after, confirmed⟩ := ih
      (fun k isOpen => only k (Slots.isOpen_of_close (by rwa [device] at isOpen)))
      (fun k => by rw [device, Slots.isDispatched_close, waits, Bool.and_false])
    rw [confirmed, s.confirmations_serveLocally isOpen, after, ledger, device]
    exact ⟨rfl, by simp⟩

theorem tick_eq_serve [Transceiver σ] {now : Nat} (link : (s.prepare now).device.link = .inactive)
    (settled : (s.prepare now).device.slots.pending .setMode = none) :
    s.tick now = (s.prepare now).serveAllLocally := by
  have works := s.works_tick now
  generalize s.tick now = t at works
  cases works with
  | switch idle pending => cases settled.symm.trans pending
  | serve => rfl
  | exchange up => cases link.symm.trans up
  | rest idle =>
    obtain ⟨fault, -⟩ := idle (by rw [link]; rfl)
    cases link.symm.trans fault

end Session

end Sdci
