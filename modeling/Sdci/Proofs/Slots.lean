import Sdci.Request

/-! # What is open after a change of the slots

Each operation on the slots of a device concerns the places it names and no others.

* `Slots.among`: the open kinds of a list.
* `Slots.isOpen_close`, `Slots.isOpen_place` and so on: which places are open afterwards.
* `Slots.isDispatched_close`, `Slots.isDispatched_mark` and so on: which of the requests in them are
  marked as dispatched afterwards.
-/

namespace Sdci.Slots
set_option autoImplicit false

def among (s : Slots) (ks : List Service) : List Service := ks.filter s.isOpen

/-! ## Places -/

@[simp] theorem get_empty (k : Service) : Slots.get {} k = none := by cases k <;> rfl

@[simp] theorem get_close_self (s : Slots) (k : Service) : (s.close k).get k = none := by
  simp [close]

theorem get_close_ne (s : Slots) {k j : Service} (h : j ≠ k) : (s.close k).get j = s.get j := by
  simp [close, h]

theorem get_place_self (s : Slots) (r : Request) (now : Nat) :
    (s.place r now).get r.kind = some { payload := r.payload, issued := now } := by
  simp [place]

theorem get_place_ne (s : Slots) {r : Request} {j : Service} (h : j ≠ r.kind) (now : Nat) :
    (s.place r now).get j = s.get j := by
  simp [place, h]

/-- Closing a place that was free before it was filled. -/
theorem close_place {s : Slots} {r : Request} (free : s.isOpen r.kind = false) (now : Nat) :
    (s.place r now).close r.kind = s := by
  refine ext_get fun k => ?_
  by_cases own : k = r.kind
  · subst own
    rw [get_close_self]
    exact (Option.not_isSome_iff_eq_none.1 (Bool.eq_false_iff.1 free)).symm
  · rw [get_close_ne _ own, get_place_ne _ own]

theorem get_mark_self (s : Slots) (k : Service) (b : Bool) :
    (s.mark k b).get k = (s.get k).map fun t => { t with dispatched := b } := by
  simp [mark]

theorem get_mark_ne (s : Slots) {k j : Service} (h : j ≠ k) (b : Bool) :
    (s.mark k b).get j = s.get j := by
  simp [mark, h]

theorem get_requeue (s : Slots) (k : Service) :
    s.requeue.get k = (s.get k).map fun t => { t with dispatched := false } := by
  simp [requeue]

@[simp] theorem get_takeWhere (s : Slots) (select : Service → Bool) (k : Service) :
    (s.takeWhere select).2.get k = if select k then none else s.get k := by
  simp [takeWhere]

theorem drain_eq (s : Slots) : (s.takeWhere fun _ => true).2 = {} := rfl

/-! ## Open places -/

theorem isOpen_close (s : Slots) (j k : Service) :
    (s.close j).isOpen k = (k != j && s.isOpen k) := by
  by_cases h : k = j
  · subst h
    simp [isOpen]
  · simp [isOpen, get_close_ne s h, h]

theorem isOpen_place (s : Slots) (r : Request) (now : Nat) (k : Service) :
    (s.place r now).isOpen k = (k == r.kind || s.isOpen k) := by
  by_cases h : k = r.kind
  · subst h
    simp [isOpen, get_place_self]
  · simp [isOpen, get_place_ne s h, h]

theorem isOpen_mark (s : Slots) (j : Service) (b : Bool) (k : Service) :
    (s.mark j b).isOpen k = s.isOpen k := by
  by_cases h : k = j
  · subst h
    simp [isOpen, get_mark_self]
  · simp [isOpen, get_mark_ne s h]

theorem isOpen_requeue (s : Slots) (k : Service) : s.requeue.isOpen k = s.isOpen k := by
  simp [isOpen, get_requeue]

theorem isOpen_takeWhere (s : Slots) (select : Service → Bool) (k : Service) :
    (s.takeWhere select).2.isOpen k = (!select k && s.isOpen k) := by
  cases h : select k <;> simp [isOpen, h]

theorem isOpen_of_pending {s : Slots} {k : Service} {t : Ticket k} (h : s.pending k = some t) :
    s.isOpen k = true := by
  simp [isOpen, (Option.filter_eq_some_iff.1 h).1]

theorem isOpen_of_isPending {s : Slots} {k : Service} (h : s.isPending k = true) :
    s.isOpen k = true := by
  obtain ⟨t, ht⟩ := Option.isSome_iff_exists.1 h
  exact isOpen_of_pending ht

theorem isOpen_of_request? {s : Slots} {k : Service} {r : Request} (h : s.request? k = some r) :
    s.isOpen k = true := by
  obtain ⟨t, ht, -⟩ := Option.map_eq_some_iff.1 h
  simp [isOpen, ht]

theorem isOpen_eq_false_of_request? {s : Slots} {k : Service} (h : s.request? k = none) :
    s.isOpen k = false := by
  have empty : s.get k = none := Option.map_eq_none_iff.1 h
  simp [isOpen, empty]

theorem pending_close_eq_none {s : Slots} {k : Service} (h : s.pending k = none) (j : Service) :
    (s.close j).pending k = none := by
  by_cases hk : k = j
  · subst hk
    simp [pending]
  · rwa [pending, get_close_ne s hk]

/-! ## Requests in their places -/

theorem request?_place_ne (s : Slots) {r : Request} {k : Service} (h : k ≠ r.kind) (now : Nat) :
    (s.place r now).request? k = s.request? k := by
  rw [request?, request?, get_place_ne s h]

theorem request?_close_ne (s : Slots) {j k : Service} (h : k ≠ j) :
    (s.close j).request? k = s.request? k := by
  rw [request?, request?, get_close_ne s h]

theorem request?_of_close {s : Slots} {j k : Service} {r : Request}
    (h : (s.close j).request? k = some r) : s.request? k = some r := by
  by_cases same : k = j
  · subst same
    rw [request?, get_close_self] at h
    cases h
  · rwa [request?_close_ne s same] at h

theorem request?_of_takeWhere {s : Slots} {select : Service → Bool} {k : Service} {r : Request}
    (h : (s.takeWhere select).2.request? k = some r) : s.request? k = some r := by
  rw [request?, get_takeWhere] at h
  split at h
  · cases h
  · exact h

theorem request?_mark (s : Slots) (j : Service) (b : Bool) (k : Service) :
    (s.mark j b).request? k = s.request? k := by
  by_cases h : k = j
  · subst h
    cases get : s.get k <;> simp [request?, get_mark_self, get]
  · rw [request?, request?, get_mark_ne s h]

theorem request?_requeue (s : Slots) (k : Service) : s.requeue.request? k = s.request? k := by
  cases get : s.get k <;> simp [request?, get_requeue, get]

theorem request?_of_pending {s : Slots} {k : Service} {t : Ticket k} (h : s.pending k = some t) :
    s.request? k = some ⟨k, t.payload⟩ := by
  rw [request?, (Option.filter_eq_some_iff.1 h).1]
  rfl

theorem request?_of_nextOutOfCycle {s : Slots} {r : Request} (h : s.nextOutOfCycle = some r) :
    r.kind ∈ Service.outOfCycle ∧ s.request? r.kind = some r := by
  obtain ⟨k, mem, hk⟩ := List.exists_of_findSome?_eq_some h
  obtain ⟨t, pending, rfl⟩ := Option.map_eq_some_iff.1 hk
  exact ⟨mem, request?_of_pending pending⟩

/-! ## Dispatched requests -/

/-- Whether the open request of a kind rides on something. -/
def isDispatched (s : Slots) (k : Service) : Bool := (s.get k).any (·.dispatched)

theorem isOpen_of_isDispatched {s : Slots} {k : Service} (h : s.isDispatched k = true) :
    s.isOpen k = true := by
  unfold isDispatched at h
  unfold isOpen
  cases get : s.get k with
  | none => simp [get] at h
  | some t => rfl

theorem isDispatched_eq_false {s : Slots} {k : Service} (h : s.isOpen k = false) :
    s.isDispatched k = false := by
  refine Bool.eq_false_iff.2 fun dispatched => ?_
  rw [isOpen_of_isDispatched dispatched] at h
  cases h

theorem isDispatched_of_get {s : Slots} {k : Service} {t : Ticket k} (h : s.get k = some t) :
    s.isDispatched k = t.dispatched := by
  simp [isDispatched, h]

theorem isDispatched_of_pending {s : Slots} {k : Service} {t : Ticket k}
    (h : s.pending k = some t) : s.isDispatched k = false := by
  obtain ⟨get, waits⟩ := Option.filter_eq_some_iff.1 h
  rw [isDispatched_of_get get]
  simpa using waits

/-- A request that does not ride on anything waits. -/
theorem pending_eq_get {s : Slots} {k : Service} (waits : s.isDispatched k = false) :
    s.pending k = s.get k := by
  cases get : s.get k with
  | none => simp [pending, get]
  | some t =>
    rw [isDispatched_of_get get] at waits
    simp [pending, get, waits]

theorem isDispatched_of_isPending {s : Slots} {k : Service} (h : s.isPending k = true) :
    s.isDispatched k = false := by
  obtain ⟨t, ht⟩ := Option.isSome_iff_exists.1 h
  exact isDispatched_of_pending ht

@[simp] theorem isDispatched_empty (k : Service) : Slots.isDispatched {} k = false := by
  simp [isDispatched]

theorem isDispatched_close (s : Slots) (j k : Service) :
    (s.close j).isDispatched k = (k != j && s.isDispatched k) := by
  by_cases h : k = j
  · subst h
    simp [isDispatched]
  · simp [isDispatched, get_close_ne s h, bne_iff_ne.2 h]

theorem isDispatched_place (s : Slots) (r : Request) (now : Nat) (k : Service) :
    (s.place r now).isDispatched k = (k != r.kind && s.isDispatched k) := by
  by_cases h : k = r.kind
  · subst h
    simp [isDispatched, get_place_self]
  · simp [isDispatched, get_place_ne s h, bne_iff_ne.2 h]

theorem isDispatched_mark (s : Slots) (j k : Service) :
    (s.mark j true).isDispatched k = (k == j && s.isOpen k || s.isDispatched k) := by
  by_cases h : k = j
  · subst h
    cases get : s.get k <;> simp [isDispatched, isOpen, get_mark_self, get]
  · simp [isDispatched, get_mark_ne s h, beq_false_of_ne h]

theorem isDispatched_requeue (s : Slots) (k : Service) : s.requeue.isDispatched k = false := by
  cases get : s.get k <;> simp [isDispatched, get_requeue, get]

theorem isDispatched_takeWhere (s : Slots) (select : Service → Bool) (k : Service) :
    (s.takeWhere select).2.isDispatched k = (!select k && s.isDispatched k) := by
  cases h : select k <;> simp [isDispatched, h]

/-! ## Open kinds of a list -/

theorem kinds_tickets (s : Slots) (ks : List Service) :
    (s.tickets ks).map AnyTicket.kind = s.among ks := by
  induction ks with
  | nil => rfl
  | cons k ks ih =>
    unfold tickets among at *
    rw [List.filterMap_cons, List.filter_cons]
    cases h : s.get k <;> simp [isOpen, h, ← ih]

theorem among_single (s : Slots) (k : Service) :
    s.among [k] = if s.isOpen k then [k] else [] := by
  cases h : s.isOpen k <;> simp [among, h]

theorem count_among {ks : List Service} (nodup : ks.Nodup) (s : Slots) (k : Service) :
    (s.among ks).count k = if k ∈ ks then (s.isOpen k).toNat else 0 := by
  unfold among
  cases h : s.isOpen k with
  | true => rw [List.count_filter h, nodup.count]; rfl
  | false =>
    rw [List.count_eq_zero_of_not_mem (by simp [h])]
    split <;> rfl

end Sdci.Slots
