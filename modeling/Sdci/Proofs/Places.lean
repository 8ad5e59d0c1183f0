import Mathlib.Data.List.Basic
import Sdci.Proofs.Expiry
import Sdci.Proofs.Slots

/-! # Numbered places

Requests and timers have a place for each kind, and the type of a place says what may stand in it.
Here the places are numbered instead, and nothing but the calls decides what is put where. Every
call goes to the place of the kind that it is about, or goes through all places one after the other,
and does what the same call does to `Slots` and `Timers`. So no place ever holds anything of another
kind.

* `Places.Own`: each place is empty or holds something of its own kind.
* `Slots.Call`, `Slots.after`, `Slots.replies`: sequences of calls on slots.
* `Slots.Row`, `Timers.Row`: numbered places and the calls on them.
* `Slots.row_call`, `Timers.row_call`: calls come to the same.
* `Slots.Row.own_iff`, `Timers.Row.own_iff`: the rows that hold their own kinds are those of `Slots`
  and `Timers`.
-/

namespace Sdci
set_option autoImplicit false

/-! ## Places of any kinds -/

namespace Places

variable {κ α : Type} {kinds : List κ} {places : List (Option α)} {kind : α → κ}

structure Own (kinds : List κ) (kind : α → κ) (places : List (Option α)) : Prop where
  length : places.length = kinds.length
  kind_at : ∀ (place : Nat) (a : α), places[place]? = some (some a) →
    kinds[place]? = some (kind a)

theorem own_map {held : κ → Option α} (own : ∀ k a, held k = some a → kind a = k) :
    Own kinds kind (kinds.map held) := by
  refine ⟨List.length_map .., fun place a h => ?_⟩
  rw [List.getElem?_map, Option.map_eq_some_iff] at h
  obtain ⟨k, at_place, found⟩ := h
  rw [at_place, own k a found]

variable [DecidableEq κ]

/-- What stands in the place of a kind. -/
def get (kinds : List κ) (places : List (Option α)) (k : κ) : Option α :=
  places[kinds.idxOf k]?.join

def put (kinds : List κ) (places : List (Option α)) (k : κ) (a : Option α) : List (Option α) :=
  places.set (kinds.idxOf k) a

theorem map_get (nodup : kinds.Nodup) (own : Own kinds kind places) :
    kinds.map (get kinds places) = places := by
  refine List.ext_getElem (by rw [List.length_map, own.length]) fun place within within' => ?_
  rw [List.getElem_map, get, nodup.idxOf_getElem, List.getElem?_eq_getElem within']
  rfl

theorem kind_of_get (own : Own kinds kind places) {k : κ} {a : α}
    (h : get kinds places k = some a) : kind a = k := by
  have at_place := own.kind_at _ a (Option.join_eq_some_iff.1 h)
  obtain ⟨within, same⟩ := List.getElem?_eq_some_iff.1 at_place
  rw [← same, List.getElem_idxOf within]

end Places

/-! ## Calls on slots -/

namespace Slots

inductive Call
  | occupy (r : Request) (now : Nat)
  | mark (k : Service) (dispatched : Bool)
  | requeue
  | take (k : Service)
  | takeWhere (select : Service → Bool)
  | drain

inductive Reply
  | opened (answer : Except Failure Unit)
  | done
  | taken (t : Option AnyTicket)
  | removed (ts : List AnyTicket)

/-- What a call is answered, and the slots after it. -/
def call (s : Slots) : Call → Reply × Slots
  | .occupy r now =>
    match s.occupy r now with
    | .ok t => (.opened (.ok ()), t)
    | .error cause => (.opened (.error cause), s)
  | .mark k dispatched => (.done, s.mark k dispatched)
  | .requeue => (.done, s.requeue)
  | .take k => (.taken ((s.take k).1.map (⟨k, ·⟩)), (s.take k).2)
  | .takeWhere select => (.removed (s.takeWhere select).1, (s.takeWhere select).2)
  | .drain => (.removed s.drain.1, s.drain.2)

/-- The slots after a sequence of calls, the latest first. -/
def after : List Call → Slots
  | [] => {}
  | c :: cs => ((after cs).call c).2

/-- What a call is answered after others. -/
def reply (c : Call) (cs : List Call) : Reply := ((after cs).call c).1

def replies : List Call → List Reply
  | [] => []
  | c :: cs => reply c cs :: replies cs

theorem call_occupy_of_free {s : Slots} {r : Request} (free : s.isOpen r.kind = false)
    (now : Nat) : s.call (.occupy r now) = (.opened (.ok ()), s.place r now) := by
  simp [call, occupy, free]

theorem call_occupy_of_open {s : Slots} {r : Request} (taken : s.isOpen r.kind = true)
    (now : Nat) : s.call (.occupy r now) = (.opened (.error .notReady), s) := by
  simp [call, occupy, taken]

/-! ## Places of requests -/

/-- Places by their numbers, with any requests in them. -/
abbrev Row := List (Option AnyTicket)

end Slots

/-- Sets or clears the mark of an open request. -/
def AnyTicket.mark (t : AnyTicket) (dispatched : Bool) : AnyTicket :=
  ⟨t.kind, { t.ticket with dispatched }⟩

/-- A request as one of a kind, if it is. -/
def AnyTicket.ofKind? (t : AnyTicket) (k : Service) : Option (Ticket k) :=
  if same : t.kind = k then some (same ▸ t.ticket) else none

theorem AnyTicket.ofKind?_kind (t : AnyTicket) : t.ofKind? t.kind = some t.ticket := by
  simp [ofKind?]

namespace Slots

namespace Row

def get (row : Row) (k : Service) : Option AnyTicket := Places.get Service.all row k

def put (row : Row) (k : Service) (t : Option AnyTicket) : Row := Places.put Service.all row k t

/-- What requests of chosen kinds there are, taken out of one place after the other, and the places
after that. -/
def sweep (select : Service → Bool) : Row → List AnyTicket × Row
  | [] => ([], [])
  | none :: places => ((sweep select places).1, none :: (sweep select places).2)
  | some t :: places =>
    if select t.kind then (t :: (sweep select places).1, none :: (sweep select places).2)
    else ((sweep select places).1, some t :: (sweep select places).2)

/-- What a call is answered, and the places after it. -/
def call (row : Row) : Call → Reply × Row
  | .occupy r now =>
    if (row.get r.kind).isSome then (.opened (.error .notReady), row)
    else (.opened (.ok ()), row.put r.kind (some ⟨r.kind, r.payload, now, false⟩))
  | .mark k dispatched => (.done, row.put k ((row.get k).map (·.mark dispatched)))
  | .requeue => (.done, row.map (Option.map (·.mark false)))
  | .take k => (.taken (row.get k), row.put k none)
  | .takeWhere select => (.removed (row.sweep select).1, (row.sweep select).2)
  | .drain => (.removed (row.sweep fun _ => true).1, (row.sweep fun _ => true).2)

/-- How many places are filled. -/
def count (row : Row) : Nat := (row.filterMap id).length

/-- The most urgent request that travels as a service frame and does not ride on one. -/
def next (row : Row) : Option AnyTicket :=
  Service.outOfCycle.findSome? fun k => (row.get k).filter (!·.ticket.dispatched)

/-- The places after a sequence of calls, the latest first. -/
def after : List Call → Row
  | [] => List.replicate Service.all.length none
  | c :: cs => ((after cs).call c).2

def replies : List Call → List Reply
  | [] => []
  | c :: cs => ((after cs).call c).1 :: replies cs

abbrev Own (row : Row) : Prop := Places.Own Service.all AnyTicket.kind row

/-- The slots that hold what stands in the places of the same kinds. -/
def slots (row : Row) : Slots := map (fun k _ => (row.get k).bind (·.ofKind? k)) {}

end Row

/-- What a slot holds, with its kind. -/
def held (s : Slots) (k : Service) : Option AnyTicket := (s.get k).map (⟨k, ·⟩)

def row (s : Slots) : Row := Service.all.map s.held

theorem get_row (s : Slots) (k : Service) : s.row.get k = s.held k := by
  cases k <;> rfl

theorem row_set (s : Slots) (k : Service) (t : Option (Ticket k)) :
    (s.set k t).row = s.row.put k (t.map (⟨k, ·⟩)) := by
  cases k <;> rfl

theorem own_row (s : Slots) : s.row.Own := by
  refine Places.own_map fun k t found => ?_
  obtain ⟨_, -, rfl⟩ := Option.map_eq_some_iff.1 found
  rfl

/-- The sweep comes to each place once, whatever stands in the others. -/
theorem sweep_held (s : Slots) (select : Service → Bool) (ks : List Service) :
    Row.sweep select (ks.map s.held) =
      (s.tickets (ks.filter select), ks.map (s.takeWhere select).2.held) := by
  induction ks with
  | nil => rfl
  | cons k ks ih =>
    rw [List.map_cons, List.map_cons, List.filter_cons, held, held, get_takeWhere]
    cases found : s.get k with
    | none =>
      rw [Option.map_none, Row.sweep, ih]
      cases chosen : select k <;> simp [tickets, found]
    | some t =>
      rw [Option.map_some, Row.sweep, ih]
      cases chosen : select k <;> simp [tickets, found]

theorem sweep_row (s : Slots) (select : Service → Bool) :
    s.row.sweep select = ((s.takeWhere select).1, (s.takeWhere select).2.row) :=
  s.sweep_held select Service.all

/-- A call on the places of slots is the call on the slots. -/
theorem row_call (s : Slots) (c : Call) : s.row.call c = ((s.call c).1, (s.call c).2.row) := by
  cases c with
  | occupy r now =>
    have filled : (s.row.get r.kind).isSome = s.isOpen r.kind := by
      rw [get_row, held, Option.isSome_map, isOpen]
    cases free : s.isOpen r.kind with
    | true =>
      rw [call_occupy_of_open free]
      exact if_pos (filled.trans free)
    | false =>
      rw [call_occupy_of_free free, place, row_set]
      exact if_neg (by rw [filled, free]; exact Bool.false_ne_true)
  | mark k dispatched =>
    refine Prod.ext rfl ?_
    change s.row.put k _ = (s.mark k dispatched).row
    rw [get_row, held, mark, row_set, Option.map_map, Option.map_map]
    rfl
  | requeue =>
    refine Prod.ext rfl ?_
    change s.row.map _ = s.requeue.row
    refine (List.map_map ..).trans (List.map_congr_left fun k _ => ?_)
    rw [Function.comp_apply, held, held, get_requeue, Option.map_map, Option.map_map]
    rfl
  | take k =>
    change (Reply.taken (s.row.get k), s.row.put k none) = _
    rw [get_row]
    exact Prod.ext rfl (s.row_set k none).symm
  | takeWhere select =>
    change (Reply.removed (s.row.sweep select).1, (s.row.sweep select).2) = _
    rw [sweep_row]
    rfl
  | drain =>
    change (Reply.removed (s.row.sweep _).1, (s.row.sweep _).2) = _
    rw [sweep_row]
    rfl

theorem row_after (cs : List Call) : Row.after cs = (after cs).row := by
  induction cs with
  | nil => rfl
  | cons c cs ih => rw [Row.after, ih, row_call, after]

theorem replies_row (cs : List Call) : Row.replies cs = replies cs := by
  induction cs with
  | nil => rfl
  | cons c cs ih => rw [Row.replies, ih, row_after, row_call, replies, reply]

theorem count_row (s : Slots) : s.row.count = s.count := by
  rw [Row.count, row, List.filterMap_map, count, openKinds, ← List.countP_eq_length_filter,
    List.length_filterMap_eq_countP]
  refine List.countP_congr fun k _ => ?_
  cases found : s.get k <;> simp [isOpen, held, found]

theorem next_row (s : Slots) : s.row.next.map AnyTicket.request = s.nextOutOfCycle := by
  rw [Row.next, List.map_findSome?, nextOutOfCycle]
  refine congrArg (List.findSome? · Service.outOfCycle) (funext fun k => ?_)
  rw [Function.comp_apply, get_row, held, pendingRequest, pending]
  rcases s.get k with _ | ⟨payload, issued, _ | _⟩ <;> rfl

theorem Row.row_slots {row : Row} (own : row.Own) : row.slots.row = row := by
  have nodup : Service.all.Nodup := by decide
  calc row.slots.row = Service.all.map row.get := by
        refine List.map_congr_left fun k _ => ?_
        rw [held, slots, get_map]
        cases found : row.get k with
        | none => rfl
        | some t =>
          obtain rfl := Places.kind_of_get own found
          rw [Option.bind_some, AnyTicket.ofKind?_kind]
          rfl
    _ = row := Places.map_get nodup own

theorem Row.own_iff {row : Row} : row.Own ↔ ∃ s : Slots, s.row = row := by
  constructor
  · intro own
    exact ⟨row.slots, row_slots own⟩
  · rintro ⟨s, rfl⟩
    exact s.own_row

/-- A call leaves no place with a request of another kind. -/
theorem Row.own_call {row : Row} (own : row.Own) (c : Call) : (row.call c).2.Own := by
  obtain ⟨s, rfl⟩ := own_iff.1 own
  rw [row_call]
  exact own_row _

end Slots

/-! ## Places of timers -/

namespace Timers

/-- Places by their numbers, with any timers in them. -/
abbrev Row := List (Option (Timer × Running))

namespace Row

def get (row : Row) (k : Timer) : Option (Timer × Running) := Places.get Timer.all row k

def put (row : Row) (k : Timer) (r : Option (Timer × Running)) : Row := Places.put Timer.all row k r

/-- The timers in the places that are due, each with its deadline. -/
def due (row : Row) (now : Nat) : List (Timer × Nat) :=
  ((row.filterMap id).map fun e => (e.1, e.2.deadline)).filter (·.2 ≤ now)

/-- What a call is answered, and the places after it. -/
def call (row : Row) : Call → Option Timer × Row
  | .start k duration now | .restart k duration now =>
    (none, row.put k (some (k, ⟨now, duration⟩)))
  | .stop k => (none, row.put k none)
  | .stopAll => (none, List.replicate Timer.all.length none)
  | .expire now =>
    match earliest (row.due now) with
    | none => (none, row)
    | some (k, _) => (some k, row.put k none)

abbrev Own (row : Row) : Prop := Places.Own Timer.all Prod.fst row

/-- The timers that run as those in the places of the same kinds do. -/
def timers (row : Row) : Timers where
  modeSwitch := (row.get .modeSwitch).map Prod.snd
  transfer := (row.get .transfer).map Prod.snd
  maxCycle := (row.get .maxCycle).map Prod.snd

theorem get_timers (row : Row) (k : Timer) : row.timers.get k = (row.get k).map Prod.snd := by
  cases k <;> rfl

end Row

/-- How a timer runs, with its kind. -/
def held (t : Timers) (k : Timer) : Option (Timer × Running) := (t.get k).map (k, ·)

def row (t : Timers) : Row := Timer.all.map t.held

theorem row_set (t : Timers) (k : Timer) (r : Option Running) :
    (t.set k r).row = t.row.put k (r.map (k, ·)) := by
  cases k <;> rfl

theorem own_row (t : Timers) : t.row.Own := by
  refine Places.own_map fun k e found => ?_
  obtain ⟨_, -, rfl⟩ := Option.map_eq_some_iff.1 found
  rfl

theorem due_row (t : Timers) (now : Nat) :
    t.row.due now = (t.pending Timer.all).filter (·.2 ≤ now) := by
  unfold Row.due row pending
  rw [List.filterMap_map, List.map_filterMap]
  refine congrArg _ (List.filterMap_congr fun k _ => ?_)
  cases found : t.get k <;> simp [deadline?, held, found]

/-- A call on the places of timers is the call on the timers. -/
theorem row_call (t : Timers) (c : Call) : t.row.call c = ((t.call c).1, (t.call c).2.row) := by
  cases c with
  | start k duration now | restart k duration now =>
    exact Prod.ext rfl (t.row_set k (some ⟨now, duration⟩)).symm
  | stop k => exact Prod.ext rfl (t.row_set k none).symm
  | stopAll => rfl
  | expire now =>
    change (match earliest (t.row.due now) with
      | none => _
      | some (k, _) => _) = (((t.due? now).map fun k => (k, t.stop k)).map Prod.fst,
        (((t.due? now).map fun k => (k, t.stop k)).elim t Prod.snd).row)
    rw [due_row, due?]
    cases earliest ((t.pending Timer.all).filter (·.2 ≤ now)) with
    | none => rfl
    | some e => exact Prod.ext rfl (t.row_set e.1 none).symm

theorem Row.row_timers {row : Row} (own : row.Own) : row.timers.row = row := by
  have nodup : Timer.all.Nodup := by decide
  calc row.timers.row = Timer.all.map row.get := by
        refine List.map_congr_left fun k _ => ?_
        rw [held, get_timers]
        cases found : row.get k with
        | none => rfl
        | some e =>
          obtain rfl := Places.kind_of_get own found
          rfl
    _ = row := Places.map_get nodup own

theorem Row.own_iff {row : Row} : row.Own ↔ ∃ t : Timers, t.row = row := by
  constructor
  · intro own
    exact ⟨row.timers, row_timers own⟩
  · rintro ⟨t, rfl⟩
    exact t.own_row

/-- A call leaves no place with a timer of another kind. -/
theorem Row.own_call {row : Row} (own : row.Own) (c : Call) : (row.call c).2.Own := by
  obtain ⟨t, rfl⟩ := own_iff.1 own
  rw [row_call]
  exact own_row _

end Timers

end Sdci
