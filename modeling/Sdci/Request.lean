import Sdci.Access
import Sdci.Parameter.Ident
import Sdci.Parameter.Com

/-! # Requests and their slots

A request is a kind of service together with what that kind carries. A device keeps at most one
open request of each kind; `Slots` has one place per kind, so a place cannot hold a request of
another kind.

* `Slots.get`, `Slots.set`: one place.
* `Slots.occupy`: opens a request if its place is free.
* `Slots.pending`: an open request that does not ride on a frame yet.
* `Slots.nextOutOfCycle`: the most urgent pending request that travels as a service frame.
* `Slots.takeWhere`: closes all open requests of chosen kinds and lists them.
-/

namespace Sdci
set_option autoImplicit false

/-! ## Requests -/

/-- What a request of a kind carries. -/
abbrev Service.Payload : Service → Type
  | .setMode => Mode
  | .getMode => Unit
  | .setIdent => Ident
  | .getIdent => Unit
  | .setCom => Com
  | .getCom => Unit
  | .input => Octets
  | .event => UInt16
  | .access => Answer

structure Request where
  kind : Service
  payload : kind.Payload

/-- An open request. -/
structure Ticket (kind : Service) where
  payload : kind.Payload
  /-- The time of the last tick before the request was made. -/
  issued : Nat
  /-- Set while the request rides on a frame, or on a mode switch, that is not over yet. -/
  dispatched : Bool := false

/-- An open request of any kind. -/
structure AnyTicket where
  kind : Service
  ticket : Ticket kind

def AnyTicket.request (t : AnyTicket) : Request := ⟨t.kind, t.ticket.payload⟩

/-! ## Slots -/

structure Slots where
  setMode : Option (Ticket .setMode) := none
  getMode : Option (Ticket .getMode) := none
  setIdent : Option (Ticket .setIdent) := none
  getIdent : Option (Ticket .getIdent) := none
  setCom : Option (Ticket .setCom) := none
  getCom : Option (Ticket .getCom) := none
  input : Option (Ticket .input) := none
  event : Option (Ticket .event) := none
  access : Option (Ticket .access) := none

namespace Slots

def get (s : Slots) : (k : Service) → Option (Ticket k)
  | .setMode => s.setMode
  | .getMode => s.getMode
  | .setIdent => s.setIdent
  | .getIdent => s.getIdent
  | .setCom => s.setCom
  | .getCom => s.getCom
  | .input => s.input
  | .event => s.event
  | .access => s.access

def set (s : Slots) : (k : Service) → Option (Ticket k) → Slots
  | .setMode, t => { s with setMode := t }
  | .getMode, t => { s with getMode := t }
  | .setIdent, t => { s with setIdent := t }
  | .getIdent, t => { s with getIdent := t }
  | .setCom, t => { s with setCom := t }
  | .getCom, t => { s with getCom := t }
  | .input, t => { s with input := t }
  | .event, t => { s with event := t }
  | .access, t => { s with access := t }

@[simp] theorem get_set_self (s : Slots) (k : Service) (t : Option (Ticket k)) :
    (s.set k t).get k = t := by cases k <;> rfl

@[simp] theorem get_set_ne (s : Slots) {k j : Service} (h : j ≠ k) (t : Option (Ticket k)) :
    (s.set k t).get j = s.get j := by
  cases k <;> cases j <;> first | rfl | exact absurd rfl h

@[ext] theorem ext_get {s t : Slots} (h : ∀ k, s.get k = t.get k) : s = t := by
  cases s; cases t
  have h₁ := h .setMode
  have h₂ := h .getMode
  have h₃ := h .setIdent
  have h₄ := h .getIdent
  have h₅ := h .setCom
  have h₆ := h .getCom
  have h₇ := h .input
  have h₈ := h .event
  have h₉ := h .access
  simp only [get] at h₁ h₂ h₃ h₄ h₅ h₆ h₇ h₈ h₉
  subst h₁ h₂ h₃ h₄ h₅ h₆ h₇ h₈ h₉
  rfl

/-- Applies a function to every place. -/
def map (f : (k : Service) → Option (Ticket k) → Option (Ticket k)) (s : Slots) : Slots where
  setMode := f .setMode s.setMode
  getMode := f .getMode s.getMode
  setIdent := f .setIdent s.setIdent
  getIdent := f .getIdent s.getIdent
  setCom := f .setCom s.setCom
  getCom := f .getCom s.getCom
  input := f .input s.input
  event := f .event s.event
  access := f .access s.access

@[simp] theorem get_map (f : (k : Service) → Option (Ticket k) → Option (Ticket k)) (s : Slots)
    (k : Service) : (s.map f).get k = f k (s.get k) := by cases k <;> rfl

/-! ## Open and pending requests -/

def isOpen (s : Slots) (k : Service) : Bool := (s.get k).isSome

def openKinds (s : Slots) : List Service := Service.all.filter s.isOpen

def count (s : Slots) : Nat := s.openKinds.length

/-- All open requests of the kinds in a list, in its order. -/
def tickets (s : Slots) (ks : List Service) : List AnyTicket :=
  ks.filterMap fun k => (s.get k).map (⟨k, ·⟩)

def pending (s : Slots) (k : Service) : Option (Ticket k) := (s.get k).filter (!·.dispatched)

def isPending (s : Slots) (k : Service) : Bool := (s.pending k).isSome

/-- What is open in a place, as a request. -/
def request? (s : Slots) (k : Service) : Option Request := (s.get k).map fun t => ⟨k, t.payload⟩

/-- The pending request of a kind, with its kind. -/
def pendingRequest (s : Slots) (k : Service) : Option Request :=
  (s.pending k).map fun t => ⟨k, t.payload⟩

def nextOutOfCycle (s : Slots) : Option Request := Service.outOfCycle.findSome? s.pendingRequest

/-! ## Opening and closing -/

/-- Fills the place of a request. -/
def place (s : Slots) (r : Request) (now : Nat) : Slots :=
  s.set r.kind (some { payload := r.payload, issued := now })

def occupy (s : Slots) (r : Request) (now : Nat) : Except Failure Slots :=
  if s.isOpen r.kind then .error .notReady else .ok (s.place r now)

def close (s : Slots) (k : Service) : Slots := s.set k none

/-- Frees a place and hands out what it held. -/
def take (s : Slots) (k : Service) : Option (Ticket k) × Slots := (s.get k, s.close k)

def takeWhere (s : Slots) (select : Service → Bool) : List AnyTicket × Slots :=
  (s.tickets (Service.all.filter select), s.map fun k t => if select k then none else t)

def drain (s : Slots) : List AnyTicket × Slots := s.takeWhere fun _ => true

/-! ## Dispatched requests -/

def mark (s : Slots) (k : Service) (dispatched : Bool) : Slots :=
  s.set k ((s.get k).map fun t => { t with dispatched })

/-- Makes every open request pending again. -/
def requeue (s : Slots) : Slots := s.map fun _ t => t.map fun t => { t with dispatched := false }

/-! ## Counting -/

theorem close_of_not_isOpen {s : Slots} {k : Service} (h : s.isOpen k = false) : s.close k = s := by
  refine ext_get fun j => ?_
  by_cases hj : j = k
  · subst hj
    rw [close, get_set_self]
    exact (Option.not_isSome_iff_eq_none.1 (Bool.eq_false_iff.1 h)).symm
  · rw [close, get_set_ne s hj]

theorem isOpen_of_pendingRequest {s : Slots} {k : Service} {r : Request}
    (h : s.pendingRequest k = some r) : r.kind = k ∧ s.isOpen k := by
  obtain ⟨t, ht, rfl⟩ := Option.map_eq_some_iff.1 h
  exact ⟨rfl, by simp [isOpen, (Option.filter_eq_some_iff.1 ht).1]⟩

theorem isOpen_of_nextOutOfCycle {s : Slots} {r : Request} (h : s.nextOutOfCycle = some r) :
    s.isOpen r.kind := by
  obtain ⟨k, -, hk⟩ := List.exists_of_findSome?_eq_some h
  obtain ⟨rfl, ho⟩ := isOpen_of_pendingRequest hk
  exact ho

/-- Closing an open request leaves one fewer. -/
theorem count_close (s : Slots) {k : Service} (h : s.isOpen k) :
    (s.close k).count + 1 = s.count := by
  have split : ∀ l : List Service, l.Nodup → k ∈ l →
      (l.filter (s.close k).isOpen).length + 1 = (l.filter s.isOpen).length := by
    intro l nodup mem
    induction l with
    | nil => simp at mem
    | cons a rest ih =>
      obtain ⟨ha, hrest⟩ := List.nodup_cons.1 nodup
      by_cases hak : a = k
      · subst hak
        have same : rest.filter (s.close a).isOpen = rest.filter s.isOpen := by
          refine List.filter_congr fun j hj => ?_
          have hja : j ≠ a := fun e => ha (e ▸ hj)
          simp [isOpen, close, get_set_ne s hja]
        have closed : (s.close a).isOpen a = false := by simp [isOpen, close]
        simp [closed, h, same]
      · have hk : k ∈ rest := (List.mem_cons.1 mem).resolve_left (Ne.symm hak)
        have same : (s.close k).isOpen a = s.isOpen a := by
          simp [isOpen, close, get_set_ne s hak]
        have := ih hrest hk
        simp only [List.filter_cons, same]
        split <;> simp_all
  exact split Service.all (by decide) (Service.mem_all k)

end Slots

end Sdci
