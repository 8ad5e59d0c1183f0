import Mathlib.Data.List.Basic
import Sdci.Proofs.Confirmation
import Sdci.Proofs.Outstanding

/-! # The ledger of a device

How the open requests about parameters will end is settled as long as no others come in: the most
urgent comes first, and each finds the parameters as the one before has left them. A device works
off this list, whatever else it does.

* `Slots.parameterRequests`, `Store.serveAll`: the open requests, and how they end if one is served
  after the other.
* `Device.ledger`: how those of a device will end.
* `Device.Urgent`: the frame in flight carries the first of them, unless it carries an answer.
* `Device.Advances`: a device works off its ledger.
* `Device.Moves.advances`: so it does in every phase of a tick.
-/

namespace Sdci
set_option autoImplicit false

/-! ## Requests in their order -/

namespace Slots

/-- The open requests about parameters, the most urgent first. -/
def parameterRequests (s : Slots) : List Request := Service.parameters.filterMap s.request?

theorem pendingRequest_eq {s : Slots} {k : Service} (waits : s.isDispatched k = false) :
    s.pendingRequest k = s.request? k := by
  rw [pendingRequest, pending_eq_get waits]
  rfl

theorem request?_eq_of_payload {s t : Slots} {k : Service}
    (h : (s.get k).map Ticket.payload = (t.get k).map Ticket.payload) :
    s.request? k = t.request? k := by
  have made := congrArg (Option.map (Request.mk k)) h
  rw [Option.map_map, Option.map_map] at made
  exact made

theorem kinds_requests (s : Slots) (ks : List Service) :
    (ks.filterMap s.request?).map Request.kind = s.among ks := by
  induction ks with
  | nil => rfl
  | cons k ks ih =>
    unfold among at *
    rw [List.filterMap_cons, List.filter_cons]
    cases get : s.get k <;> simp [isOpen, request?, get, ← ih]

theorem parameterRequests_congr {s t : Slots}
    (h : ∀ k ∈ Service.parameters, s.request? k = t.request? k) :
    s.parameterRequests = t.parameterRequests :=
  List.filterMap_congr h

theorem parameterRequests_eq_nil_iff {s : Slots} :
    s.parameterRequests = [] ↔ ∀ k ∈ Service.parameters, s.isOpen k = false := by
  unfold parameterRequests
  rw [List.filterMap_eq_nil_iff]
  refine forall₂_congr fun k _ => ?_
  cases get : s.get k <;> simp [request?, isOpen, get]

/-- Closing the first of the open requests leaves the others. -/
theorem requests_close {s : Slots} {ks : List Service} (nodup : ks.Nodup) {r : Request}
    {rest : List Request} (h : ks.filterMap s.request? = r :: rest) :
    ks.filterMap (s.close r.kind).request? = rest := by
  induction ks with
  | nil => cases h
  | cons k ks ih =>
    obtain ⟨once, others⟩ := List.nodup_cons.1 nodup
    rw [List.filterMap_cons] at h ⊢
    cases request : s.request? k with
    | none =>
      have none : (s.close r.kind).request? k = none :=
        Option.eq_none_iff_forall_ne_some.2 fun _ found => by
          cases request.symm.trans (request?_of_close found)
      rw [none]
      rw [request] at h
      exact ih others h
    | some first =>
      rw [request] at h
      obtain ⟨rfl, rfl⟩ := List.cons.inj h
      obtain rfl := kind_of_request? request
      have none : (s.close first.kind).request? first.kind = none := by
        rw [request?, get_close_self]
        rfl
      rw [none]
      refine List.filterMap_congr fun j mem => request?_close_ne _ ?_
      rintro rfl
      exact once mem

theorem request?_of_mem {s : Slots} {r : Request} (h : r ∈ s.parameterRequests) :
    s.request? r.kind = some r := by
  obtain ⟨k, -, request⟩ := List.mem_filterMap.1 h
  rwa [kind_of_request? request]

theorem parameterRequests_close {s : Slots} {r : Request} {rest : List Request}
    (h : s.parameterRequests = r :: rest) : (s.close r.kind).parameterRequests = rest :=
  requests_close (by decide) h

theorem parameterRequests_close_ne {s : Slots} {k : Service} (other : k ∉ Service.parameters) :
    (s.close k).parameterRequests = s.parameterRequests := by
  refine parameterRequests_congr fun j mem => request?_close_ne _ ?_
  rintro rfl
  exact other mem

/-- If no request rides on anything, the most urgent one is the first of its sort. -/
theorem parameterRequests_of_next {s : Slots} (waits : ∀ k, s.isDispatched k = false)
    {r : Request} (next : s.nextOutOfCycle = some r) (about : r.kind ∈ Service.parameters) :
    ∃ rest, s.parameterRequests = r :: rest := by
  have away {k : Service} (other : k ∉ Service.parameters) : s.pendingRequest k ≠ some r := by
    intro found
    rw [(isOpen_of_pendingRequest found).1] at about
    exact other about
  change List.findSome? s.pendingRequest (.event :: .access :: Service.parameters) = _ at next
  rw [List.findSome?_cons] at next
  split at next
  · rename_i first
    exact absurd (first.trans next) (away (by decide))
  · rw [List.findSome?_cons] at next
    split at next
    · rename_i first
      exact absurd (first.trans next) (away (by decide))
    · have first : s.parameterRequests.head? = some r := by
        rw [parameterRequests, List.head?_filterMap, ← next]
        exact congrArg (List.findSome? · Service.parameters)
          (funext fun k => (pendingRequest_eq (waits k)).symm)
      exact List.head?_eq_some_iff.1 first

theorem count_place {s : Slots} {r : Request} (free : s.isOpen r.kind = false) (now : Nat) :
    (s.place r now).count = s.count + 1 := by
  have isOpen : (s.place r now).isOpen r.kind = true := by
    rw [isOpen_place, beq_self_eq_true]
    rfl
  rw [← count_close _ isOpen, close_place free]

end Slots

namespace Store

/-- How requests end that are served one after the other, and what they leave. -/
def serveAll : Store → List Request → List (Service × Outcome) × Store
  | s, [] => ([], s)
  | s, r :: rest =>
    let done := s.complete r
    let later := done.2.serveAll rest
    ((r.kind, done.1) :: later.1, later.2)

theorem kinds_serveAll (s : Store) (rs : List Request) :
    (s.serveAll rs).1.map Prod.fst = rs.map Request.kind := by
  induction rs generalizing s with
  | nil => rfl
  | cons r rest ih => exact congrArg (r.kind :: ·) (ih _)

theorem serve_eq_complete (s : Store) {r : Request} (about : r.kind ∈ Service.parameters) :
    s.serve r = s.complete r := by
  obtain ⟨kind, content⟩ := r
  cases kind with
  | setIdent | getIdent | setCom | getCom => rfl
  | _ => contradiction

end Store

namespace Trace

/-- The confirmations of requests about parameters, latest first. -/
def parameterConfirmations (t : Trace) : List (Service × Outcome) :=
  t.confirmations.filter fun c => c.1 ∈ Service.parameters

theorem parameterConfirmations_append (es t : Trace) :
    parameterConfirmations (es ++ t) =
      parameterConfirmations es ++ parameterConfirmations t := by
  unfold parameterConfirmations
  rw [confirmations_append, List.filter_append]

theorem parameterConfirmations_of_unconfirmed {es : Trace}
    (h : ∀ e ∈ es, e.confirmation? = none) : parameterConfirmations es = [] := by
  rw [parameterConfirmations, confirmations, List.filterMap_eq_nil_iff.2 h]
  rfl

theorem parameterConfirmations_of_bare {es s t : Trace} (trace : bare t = es ++ bare s) :
    parameterConfirmations t = parameterConfirmations es ++ parameterConfirmations s := by
  have same (t : Trace) : parameterConfirmations (bare t) = parameterConfirmations t := by
    rw [parameterConfirmations, confirmations_bare, parameterConfirmations]
  rw [← same t, trace, parameterConfirmations_append, same]

end Trace

namespace Device

/-- How the open requests about parameters will end, and the parameters then. -/
def ledger (d : Device) : List (Service × Outcome) × Store :=
  d.store.serveAll d.slots.parameterRequests

theorem ledger_eq_nil_iff {d : Device} :
    d.ledger.1 = [] ↔ d.slots.parameterRequests = [] := by
  have kinds := d.store.kinds_serveAll d.slots.parameterRequests
  constructor
  · intro none
    rw [ledger] at none
    rw [none] at kinds
    exact List.map_eq_nil_iff.1 kinds.symm
  · intro none
    rw [ledger, none]
    rfl

theorem ledger_of_nil {d : Device} (none : d.ledger.1 = []) : d.ledger = ([], d.store) := by
  rw [ledger, ledger_eq_nil_iff.1 none]
  rfl

theorem ledger_of_same {d u : Device} (store : u.store = d.store)
    (same : u.slots.parameterRequests = d.slots.parameterRequests) :
    d.ledger = ([] ++ u.ledger.1, u.ledger.2) := by
  rw [ledger, ledger, store, same]
  rfl

/-- The first request has been confirmed, and is closed. -/
theorem ledger_of_first {d u : Device} {r : Request} {rest : List Request}
    (about : r.kind ∈ Service.parameters) (first : d.slots.parameterRequests = r :: rest)
    (store : u.store = (d.store.complete r).2) (slots : u.slots = d.slots.close r.kind) (a : Bool) :
    ∃ ended, Trace.parameterConfirmations [.confirmed r.kind (d.store.complete r).1 a] =
        ended.reverse ∧ d.ledger = (ended ++ u.ledger.1, u.ledger.2) := by
  refine ⟨[(r.kind, (d.store.complete r).1)], ?_, ?_⟩
  · simp [Trace.parameterConfirmations, Trace.confirmations, Event.confirmation?, about]
  · rw [ledger, ledger, first, store, slots, Slots.parameterRequests_close first]
    rfl

theorem completion_of_parameter (d : Device) {r : Request} (about : r.kind ∈ Service.parameters) :
    d.completion r = ((d.store.complete r).1, { d with store := (d.store.complete r).2 }) := by
  obtain ⟨kind, content⟩ := r
  cases kind with
  | setIdent | getIdent | setCom | getCom => rfl
  | _ => contradiction

/-! ## Working off the ledger -/

/-- No request is open that would come between those about parameters and the link. -/
def Alone (d : Device) : Prop := ∀ k ∈ [Service.setMode, .input, .event], d.slots.isOpen k = false

/-- A frame carries the most urgent request about parameters, if there is one, unless it carries the
answer to an access. -/
def Leads (d : Device) (out : InFlight) : Prop :=
  d.slots.parameterRequests = [] ∨ out.carries = some .access ∨
    ∃ r rest, d.slots.parameterRequests = r :: rest ∧ out.carries = some r.kind

def Urgent (d : Device) : Prop := ∀ out, d.inFlight = some out → d.Leads out

/-- The device confirms the first entries of its ledger. As long as there are more, every valid
answer ends a request. -/
structure Advances (d : Device) (es : Trace) (u : Device) : Prop where
  ledger : ∃ ended, es.parameterConfirmations = ended.reverse ∧
    d.ledger = (ended ++ u.ledger.1, u.ledger.2)
  progress : u.ledger.1 ≠ [] →
    es.countP Event.succeeds + u.slots.count ≤ d.slots.count + es.countP Event.isAccess

theorem urgent_of_none {d : Device} (frame : d.inFlight = none) : d.Urgent := by
  intro out kept
  cases frame.symm.trans kept

theorem Urgent.keeps {d u : Device} (h : d.Urgent) (frame : u.inFlight = d.inFlight)
    (same : u.slots.parameterRequests = d.slots.parameterRequests) : u.Urgent := by
  intro out kept
  rw [Leads, same]
  exact h out (frame.symm.trans kept)

namespace Advances

variable {d u v : Device} {es fs : Trace}

theorem stays (store : u.store = d.store)
    (same : u.slots.parameterRequests = d.slots.parameterRequests)
    (quiet : es.parameterConfirmations = []) (fewer : u.slots.count ≤ d.slots.count)
    (slow : es.countP Event.succeeds = 0) : d.Advances es u :=
  ⟨⟨[], quiet, ledger_of_same store same⟩, fun _ => by omega⟩

theorem trans (h₁ : d.Advances es v) (h₂ : v.Advances fs u) : d.Advances (fs ++ es) u := by
  obtain ⟨⟨ended₁, confirmed₁, ledger₁⟩, progress₁⟩ := h₁
  obtain ⟨⟨ended₂, confirmed₂, ledger₂⟩, progress₂⟩ := h₂
  refine ⟨⟨ended₁ ++ ended₂, ?_, ?_⟩, fun more => ?_⟩
  · rw [Trace.parameterConfirmations_append, confirmed₁, confirmed₂, List.reverse_append]
  · rw [ledger₁, ledger₂, List.append_assoc]
  · have more' : v.ledger.1 ≠ [] := by
      rw [ledger₂]
      exact List.append_ne_nil_of_right_ne_nil _ more
    have first := progress₁ more'
    have last := progress₂ more
    rw [List.countP_append, List.countP_append]
    omega

end Advances

/-! ## One move -/

/-- An answered frame takes the first entry off the ledger, or the answer to an access. -/
theorem advances_of_settles {d u : Device} {es : Trace} {out : InFlight}
    (settles : Settles d es u) (frame : d.inFlight = some out) (urgent : d.Urgent)
    (kinds : ∀ k, d.riding = some k → k = .access ∨ k ∈ Service.parameters)
    (isOpen : ∀ k, d.riding = some k → d.slots.isOpen k = true) :
    (∃ ended, es.parameterConfirmations = ended.reverse ∧
      d.ledger = (ended ++ u.ledger.1, u.ledger.2)) ∧
    (u.ledger.1 ≠ [] → u.slots.count + 1 ≤ d.slots.count) := by
  have carries : d.riding = out.carries := by
    rw [riding, frame]
    rfl
  cases settles with
  | cyclic none =>
    refine ⟨⟨[], rfl, rfl⟩, fun more => absurd ?_ (mt ledger_eq_nil_iff.2 more)⟩
    rw [riding, none] at carries
    rcases urgent out frame with empty | answer | ⟨r, rest, -, own⟩
    · exact empty
    · cases carries.trans answer
    · cases carries.trans own
  | stray rides closed =>
    have closed := Slots.isOpen_eq_false_of_request? closed
    rw [isOpen _ rides] at closed
    cases closed
  | carried a rides ticket =>
    rename_i kind request
    have fewer : (d.slots.close kind).count + 1 ≤ d.slots.count :=
      Nat.le_of_eq (Slots.count_close _ (isOpen kind rides))
    refine ⟨?_, fun _ => fewer⟩
    obtain rfl := Slots.kind_of_request? ticket
    rcases kinds _ rides with own | about
    · -- The answer to an access is none of the ledger's business.
      obtain ⟨kind, answer⟩ := request
      obtain rfl : kind = .access := own
      have other : Service.access ∉ Service.parameters := by decide
      exact ⟨[], rfl, ledger_of_same rfl (Slots.parameterRequests_close_ne other)⟩
    · have own : out.carries = some request.kind := carries.symm.trans rides
      have first : ∃ rest, d.slots.parameterRequests = request :: rest := by
        rcases urgent out frame with empty | answer | ⟨r, rest, first, own'⟩
        · have closed := Slots.parameterRequests_eq_nil_iff.1 empty _ about
          rw [isOpen _ rides] at closed
          cases closed
        · have other : Service.access ∉ Service.parameters := by decide
          rw [Option.some.inj (own.symm.trans answer)] at about
          exact absurd about other
        · have found := Slots.request?_of_mem (first ▸ List.mem_cons_self)
          rw [← Option.some.inj (own.symm.trans own'), ticket] at found
          exact ⟨rest, Option.some.inj found ▸ first⟩
      obtain ⟨rest, first⟩ := first
      rw [d.completion_of_parameter about]
      exact ledger_of_first about first rfl rfl a

theorem grows_of_serves {now : Nat} {slots slots' : Slots} {access : Option Access} {es : Trace}
    (serves : Serves now slots access es slots') :
    slots'.parameterRequests = slots.parameterRequests ∧
      slots'.count = slots.count + es.countP Event.isAccess := by
  have other : Service.access ∉ Service.parameters := by decide
  refine ⟨Slots.parameterRequests_congr fun k about => request?_of_serves serves ?_, ?_⟩
  · rintro rfl
    exact other about
  · cases serves with
    | none => rfl
    | busy => rfl
    | served free answered =>
      rename_i a e answer
      have one : [e].countP Event.isAccess = 1 := by cases answered <;> rfl
      rw [one]
      exact Slots.count_place free now

theorem alone_of_inactive {c : Config} {d : Device} {t : Trace} (run : Run c d t)
    (link : d.link = .inactive) (unwanted : d.slots.pending .setMode = none) : d.Alone := by
  have away {k : Service} (needs : k.needsLink = true) : d.slots.isOpen k = false := by
    refine Bool.eq_false_iff.2 fun isOpen => ?_
    have room := run.housed k isOpen
    rw [link, Link.houses, needs] at room
    cases room
  intro k mem
  rcases List.mem_cons.1 mem with rfl | mem
  · exact Slots.isOpen_eq_false unwanted (run.isDispatched_of_away (.inl link))
  · refine away ?_
    rcases List.mem_pair.1 mem with rfl | rfl <;> rfl

theorem Alone.pending {d : Device} (h : d.Alone) {k : Service}
    (mem : k ∈ [Service.setMode, .input, .event]) : d.slots.pending k = none :=
  Option.eq_none_iff_forall_ne_some.2 fun _ pending => by
    cases (h k mem).symm.trans (Slots.isOpen_of_pending pending)

/-- The most urgent request, if none rides on anything. -/
theorem Alone.first_of_next {d : Device} (h : d.Alone)
    (waits : ∀ k, d.slots.isDispatched k = false) {r : Request}
    (next : d.slots.nextOutOfCycle = some r) :
    r.kind = .access ∨ r.kind ∈ Service.parameters ∧
      ∃ rest, d.slots.parameterRequests = r :: rest := by
  have isOpen := Slots.isOpen_of_nextOutOfCycle next
  have kinds : r.kind ∈ .event :: .access :: Service.parameters :=
    (Slots.request?_of_nextOutOfCycle next).1
  rcases List.mem_cons.1 kinds with event | kinds
  · have closed := h .event (by simp)
    rw [← event, isOpen] at closed
    cases closed
  · refine (List.mem_cons.1 kinds).imp_right fun about => ⟨about, ?_⟩
    exact Slots.parameterRequests_of_next waits next about

/-- There are no input data to be sent before. -/
theorem Alone.leads_of_fresh {d : Device} {out : InFlight} (h : d.Alone)
    (waits : ∀ k, d.slots.isDispatched k = false) (fresh : d.choose = .fresh out) :
    d.Leads out := by
  unfold choose at fresh
  split at fresh
  · cases fresh
  · split at fresh
    · rename_i ticket pending
      cases (h.pending (by simp)).symm.trans pending
    · split at fresh
      · rename_i request next
        cases fresh
        rcases h.first_of_next waits next with access | ⟨-, rest, first⟩
        · exact .inr (.inl (congrArg some access))
        · exact .inr (.inr ⟨request, rest, first, rfl⟩)
      · rename_i none
        refine .inl (Slots.parameterRequests_eq_nil_iff.2 fun k about => ?_)
        have mem : k ∈ Service.outOfCycle :=
          List.mem_cons_of_mem _ (List.mem_cons_of_mem _ about)
        exact Slots.isOpen_eq_false (Slots.pending_of_nextOutOfCycle none mem) (waits k)

/-- So a frame in flight carries an answer or a request about parameters, if anything. -/
theorem Alone.kind_of_riding {c : Config} {d : Device} {t : Trace} (h : d.Alone) (run : Run c d t)
    {k : Service} (rides : d.riding = some k) : k = .access ∨ k ∈ Service.parameters := by
  have isOpen := run.booked.isOpen_of_riding rides
  have away {j : Service} (closed : d.slots.isOpen j = false) : k ≠ j := by
    rintro rfl
    cases isOpen.symm.trans closed
  have kinds : k = .input ∨ k ∈ .event :: .access :: Service.parameters := run.kind_of_riding rides
  have kinds := kinds.resolve_left (away (h .input (by simp)))
  have kinds := (List.mem_cons.1 kinds).resolve_left (away (h .event (by simp)))
  exact List.mem_cons.1 kinds

open Trace in
/-- What a valid answer brings besides is none of the ledger's business. -/
theorem advances_of_exchange {d v : Device} {mode : Mode} {output frame : Octets}
    {received : Option Control} {access : Option Access} {i₁ i₂ : Images} {slots : Slots}
    {es₁ es₂ es₃ es₄ : Trace} (settles : Settles (d.succeeded mode output) es₁ v)
    (delivers : Delivers output v.images es₂ i₁) (signals : Signals received i₁ es₃ i₂)
    (serves : Serves d.lastTick v.slots access es₄ slots)
    (h : (∃ ended, es₁.parameterConfirmations = ended.reverse ∧
        d.ledger = (ended ++ v.ledger.1, v.ledger.2)) ∧
      (v.ledger.1 ≠ [] → v.slots.count + 1 ≤ d.slots.count)) :
    d.Advances (.cycled :: (es₄ ++ (es₃ ++ (es₂ ++ (es₁ ++
        [.linkEvent d.link .transferSucceeded, .polled (some (.transferComplete frame))])))))
      { v with images := i₂, slots } := by
  obtain ⟨⟨ended, confirmed, ledger⟩, fewer⟩ := h
  obtain ⟨same, more⟩ := grows_of_serves serves
  have handed := unconfirmed_handed delivers signals serves
  have left : Device.ledger { v with images := i₂, slots } = v.ledger :=
    congrArg v.store.serveAll same
  refine ⟨⟨ended, ?_, ?_⟩, fun rest => ?_⟩
  · have whole (begun : Trace) : .cycled :: (es₄ ++ (es₃ ++ (es₂ ++ (es₁ ++ begun)))) =
        (.cycled :: (es₄ ++ (es₃ ++ es₂))) ++ (es₁ ++ begun) := by simp
    rw [whole, parameterConfirmations_append, parameterConfirmations_append,
      parameterConfirmations_of_unconfirmed handed, confirmed]
    exact List.append_nil _
  · rw [left]
    exact ledger
  · rw [left] at rest
    have one := fewer rest
    have slow {es : Trace} (called : es.Upcalls) : es.countP Event.succeeds = 0 :=
      List.countP_eq_zero.2 fun e mem => by
        rw [called.not_succeeds e mem]
        exact Bool.false_ne_true
    simp only [List.countP_cons, List.countP_append, slow settles.upcalls, slow delivers.upcalls,
      slow signals.upcalls, slow serves.upcalls]
    change 0 + (0 + (0 + (0 + 1))) + 0 + slots.count ≤ d.slots.count + _
    omega

open Trace in
theorem Move.advances {c : Config} {p : Phase} {d u : Device} {es t : Trace} (run : Run c d t)
    (h : Move p d es u) (other : p ≠ .call) (alone : d.Alone) (urgent : d.Urgent)
    (sound : u.link ≠ .fault) : u.Urgent ∧ d.Advances es u := by
  have unasked : d.slots.pending .setMode = none := alone.pending (by simp)
  have idle (slow : es.countP Event.succeeds = 0) (quiet : es.parameterConfirmations = [])
      (frame : u.inFlight = d.inFlight) (store : u.store = d.store)
      (same : u.slots.parameterRequests = d.slots.parameterRequests)
      (fewer : u.slots.count ≤ d.slots.count) : u.Urgent ∧ d.Advances es u :=
    ⟨urgent.keeps frame same, .stays store same quiet fewer slow⟩
  cases h with
  | grant => exact absurd rfl other
  | refuse => exact absurd rfl other
  | clock => exact absurd rfl other
  | establish link =>
    obtain ⟨ticket, get, -⟩ := run.ticket_of_switching link
    have closed := alone .setMode (by simp)
    rw [Slots.isOpen, get] at closed
    cases closed
  | exchange link decode fits settles delivers signals serves =>
    rename_i v mode frame master i₁ i₂ slots es₁ es₂ es₃ es₄
    have engages := run.booked.engages
    rw [link] at engages
    obtain ⟨out, kept⟩ := Option.isSome_iff_exists.1 engages
    have answered := advances_of_settles settles kept urgent (fun k => alone.kind_of_riding run)
      (fun k => run.booked.isOpen_of_riding)
    refine ⟨urgent_of_none ?_, advances_of_exchange settles delivers signals serves answered⟩
    rw [settles.eq]
  | retry link mishap left =>
    exact idle (by cases mishap <;> rfl) (by cases mishap <;> rfl) rfl rfl rfl (Nat.le_refl _)
  | exhaust => exact absurd rfl sound
  | fault => exact absurd rfl sound
  | answerMode a quiet pending =>
    have away : Service.getMode ∉ Service.parameters := by decide
    have fewer := Slots.count_close _ (Slots.isOpen_of_isPending pending)
    exact idle rfl rfl rfl rfl (Slots.parameterRequests_close_ne away)
      (Nat.le_of_succ_le (Nat.le_of_eq fewer))
  | switch quiet idle pending => cases unasked.symm.trans pending
  | refuseMode a quiet idle pending => cases unasked.symm.trans pending
  | serve a unhurried link next =>
    rename_i request
    have frame := run.booked.inFlight_of_away (by rw [link]; rfl)
    have waits (k : Service) : d.slots.isDispatched k = false :=
      run.isDispatched_of_away (.inl link)
    have fewer := Slots.count_close _ (Slots.isOpen_of_nextOutOfCycle next)
    rcases alone.first_of_next waits next with access | ⟨about, rest, first⟩
    · have room := run.housed _ (Slots.isOpen_of_nextOutOfCycle next)
      rw [link, access] at room
      cases room
    · rw [d.store.serve_eq_complete about]
      refine ⟨urgent_of_none frame, ledger_of_first about first rfl rfl a, fun _ => ?_⟩
      change 0 + (d.slots.close request.kind).count ≤ d.slots.count + 0
      omega
  | drop a unhurried link long =>
    have closed := alone .input (by simp)
    rw [isOpen_of_tooLong long] at closed
    cases closed
  | launch unhurried link chosen =>
    rename_i mode out
    have same : (d.launched mode out).slots.parameterRequests = d.slots.parameterRequests := by
      rw [slots_launched]
      cases out.carries with
      | none => rfl
      | some kind => exact Slots.parameterRequests_congr fun k _ => Slots.request?_mark ..
    have count : (d.launched mode out).slots.count = d.slots.count :=
      congrArg List.length (List.filter_congr fun k _ => d.isOpen_launched mode out k)
    refine ⟨fun next kept => ?_, .stays rfl same rfl (Nat.le_of_eq count) rfl⟩
    cases kept
    rw [Leads, same]
    rcases chosen with again | fresh
    · exact urgent out (choose_again again)
    · refine alone.leads_of_fresh (fun k => ?_) fresh
      exact run.booked.unmarked (choose_fresh fresh).1 (by rw [link]; rfl) k
  | _ => exact idle rfl rfl rfl rfl rfl (Nat.le_refl _)

/-! ## The moves of one phase -/

theorem Moves.alone {p : Phase} {d u : Device} {es : Trace} (h : Moves p d es u)
    (other : p ≠ .call) (alone : d.Alone) : u.Alone := by
  intro k mem
  have own : k ≠ .access := by
    rintro rfl
    simp at mem
  exact h.isOpen_eq_false other own (alone k mem)

/-- Communication that has stopped does not go on by itself. -/
theorem Move.sound_of_sound {p : Phase} {d u : Device} {es : Trace} (h : Move p d es u)
    (alone : d.Alone) (sound : u.link ≠ .fault) : d.link ≠ .fault := by
  intro fault
  rcases h.keeps_link with kept | ⟨-, ticket, pending, -⟩
  · rw [fault] at kept
    exact sound kept
  · cases (alone.pending (by simp)).symm.trans pending

theorem Moves.advances {c : Config} {p : Phase} {d u : Device} {es t : Trace}
    (h : Moves p d es u) (run : Run c d t) (other : p ≠ .call) (alone : d.Alone)
    (sound : u.link ≠ .fault) :
    d.link ≠ .fault ∧ (d.Urgent → u.Urgent ∧ d.Advances es u) := by
  induction h with
  | refl => exact ⟨sound, fun urgent => ⟨urgent, .stays rfl rfl rfl (Nat.le_refl _) rfl⟩⟩
  | tail before last ih =>
    have alone' := before.alone other alone
    obtain ⟨first, earlier⟩ := ih (last.sound_of_sound alone' sound)
    refine ⟨first, fun urgent => ?_⟩
    obtain ⟨urgent', advanced⟩ := earlier urgent
    obtain ⟨urgent'', later⟩ := last.advances (run.moves before) other alone' urgent' sound
    exact ⟨urgent'', advanced.trans later⟩

end Device

end Sdci
