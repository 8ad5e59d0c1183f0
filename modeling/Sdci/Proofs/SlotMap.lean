import Mathlib.Data.Finmap
import Mathlib.Data.List.Sort
import Sdci.Proofs.Places

/-! # The slots as a finite map

A device looks its open requests up by their kinds. Whatever is called on the slots, and in whatever
order, they answer as a finite map from kinds to open requests would, and every request that was
opened is either still there or has been handed out, once.

* `Slots.toFinmap`: the map that the slots hold.
* `Slots.Does`: what a call does to a map and how it is answered; `Slots.Plays`: calls in sequence.
* `Slots.does_iff`, `Slots.plays_iff`: the slots do the same.
* `Slots.opened`, `Slots.removed`, `Slots.accounted`: what went in and what came out.
* `Slots.behaves_as_map`: what holds after any sequence of calls.
-/

namespace Sdci
set_option autoImplicit false

/-! ## The order of the kinds -/

namespace Service

/-- The number of the place of a kind. -/
def rank (k : Service) : Nat := all.idxOf k

theorem pairwise_all : all.Pairwise fun j k => j.rank < k.rank := by decide

theorem filter_all_eq (k : Service) : all.filter (· == k) = [k] := by cases k <;> rfl

end Service

namespace Slots

/-! ## Requests in the order of the places -/

theorem mem_tickets {s : Slots} {ks : List Service} {t : AnyTicket} :
    t ∈ s.tickets ks ↔ t.kind ∈ ks ∧ s.get t.kind = some t.ticket := by
  unfold tickets
  rw [List.mem_filterMap]
  constructor
  · rintro ⟨k, mem, held⟩
    obtain ⟨ticket, get, rfl⟩ := Option.map_eq_some_iff.1 held
    exact ⟨mem, get⟩
  · rintro ⟨mem, get⟩
    exact ⟨t.kind, mem, by rw [get]; rfl⟩

theorem pairwise_tickets (s : Slots) {ks : List Service}
    (ranked : ks.Pairwise fun j k => j.rank < k.rank) :
    (s.tickets ks).Pairwise fun t u => t.kind.rank < u.kind.rank := by
  refine ranked.filterMap _ fun j k less t held u held' => ?_
  obtain ⟨_, -, rfl⟩ := Option.map_eq_some_iff.1 held
  obtain ⟨_, -, rfl⟩ := Option.map_eq_some_iff.1 held'
  exact less

/-! ## The map -/

/-- The map from the kinds of the open requests to these. -/
def toFinmap (s : Slots) : Finmap Ticket :=
  Finmap.keysLookupEquiv.symm ⟨(s.openKinds.toFinset, s.get), fun k => by
    rw [List.mem_toFinset, openKinds, List.mem_filter, and_iff_right (Service.mem_all k), isOpen]⟩

@[simp] theorem lookup_toFinmap (s : Slots) (k : Service) : s.toFinmap.lookup k = s.get k := by
  simp [toFinmap]

theorem keys_toFinmap (s : Slots) : s.toFinmap.keys = s.openKinds.toFinset := by
  simp [toFinmap]

theorem mem_toFinmap {s : Slots} {k : Service} : k ∈ s.toFinmap ↔ s.isOpen k = true := by
  rw [← Finmap.lookup_isSome, lookup_toFinmap, isOpen]

theorem count_eq_card (s : Slots) : s.count = s.toFinmap.keys.card := by
  have nodup : s.openKinds.Nodup := List.Nodup.filter _ (by decide)
  rw [keys_toFinmap, List.toFinset_card_of_nodup nodup, count]

theorem toFinmap_empty : toFinmap {} = ∅ := by
  refine Finmap.ext_lookup fun k => ?_
  rw [lookup_toFinmap, get_empty, Finmap.lookup_empty]

theorem eq_toFinmap {s : Slots} {m : Finmap Ticket} (h : ∀ k, m.lookup k = s.get k) :
    m = s.toFinmap :=
  Finmap.ext_lookup fun k => by rw [h, lookup_toFinmap]

theorem toFinmap_set (s : Slots) (k : Service) (t : Ticket k) :
    (s.set k (some t)).toFinmap = s.toFinmap.insert k t := by
  refine (eq_toFinmap fun j => ?_).symm
  by_cases own : j = k
  · subst own
    rw [Finmap.lookup_insert, get_set_self]
  · rw [Finmap.lookup_insert_of_ne _ own, get_set_ne s own, lookup_toFinmap]

theorem toFinmap_close (s : Slots) (k : Service) : (s.close k).toFinmap = s.toFinmap.erase k := by
  refine (eq_toFinmap fun j => ?_).symm
  by_cases own : j = k
  · subst own
    rw [Finmap.lookup_erase, get_close_self]
  · rw [Finmap.lookup_erase_ne own, get_close_ne s own, lookup_toFinmap]

/-! ## Calls on a map -/

/-- All that a map holds of chosen kinds, each once, in the order of the places. -/
structure Lists (m : Finmap Ticket) (select : Service → Bool) (ts : List AnyTicket) : Prop where
  order : ts.Pairwise fun t u => t.kind.rank < u.kind.rank
  mem : ∀ t, t ∈ ts ↔ select t.kind = true ∧ m.lookup t.kind = some t.ticket

/-- What a call does to a map, and how it is answered. -/
inductive Does (m : Finmap Ticket) : Call → Reply → Finmap Ticket → Prop
  | opened {r : Request} {now : Nat} (free : r.kind ∉ m) :
      Does m (.occupy r now) (.opened (.ok ()))
        (m.insert r.kind { payload := r.payload, issued := now })
  | busy {r : Request} {now : Nat} (taken : r.kind ∈ m) :
      Does m (.occupy r now) (.opened (.error .notReady)) m
  | marked {k : Service} {dispatched : Bool} {t : Ticket k} (held : m.lookup k = some t) :
      Does m (.mark k dispatched) .done (m.insert k { t with dispatched })
  | unmarked {k : Service} {dispatched : Bool} (absent : k ∉ m) :
      Does m (.mark k dispatched) .done m
  | requeued {m' : Finmap Ticket}
      (waits : ∀ k, m'.lookup k = (m.lookup k).map fun t => { t with dispatched := false }) :
      Does m .requeue .done m'
  | taken {k : Service} : Does m (.take k) (.taken ((m.lookup k).map (⟨k, ·⟩))) (m.erase k)
  | removed {select : Service → Bool} {ts : List AnyTicket} {m' : Finmap Ticket}
      (lists : Lists m select ts)
      (rest : ∀ k, m'.lookup k = if select k then none else m.lookup k) :
      Does m (.takeWhere select) (.removed ts) m'
  | drained {ts : List AnyTicket} (lists : Lists m (fun _ => true) ts) :
      Does m .drain (.removed ts) ∅

/-- What a sequence of calls, the latest first, makes of an empty map, and the replies. -/
inductive Plays : List Call → List Reply → Finmap Ticket → Prop
  | start : Plays [] [] ∅
  | call {cs : List Call} {rs : List Reply} {m m' : Finmap Ticket} {c : Call} {r : Reply}
      (earlier : Plays cs rs m) (does : Does m c r m') : Plays (c :: cs) (r :: rs) m'

/-- There is one such list. -/
theorem Lists.eq {m : Finmap Ticket} {select : Service → Bool} {ts us : List AnyTicket}
    (h : Lists m select ts) (h' : Lists m select us) : ts = us := by
  let before (t u : AnyTicket) : Prop := t.kind.rank < u.kind.rank
  have : Std.Irrefl before := ⟨fun t => Nat.lt_irrefl t.kind.rank⟩
  have : Std.Antisymm before := ⟨fun t u less more => absurd less (Nat.lt_asymm more)⟩
  exact List.Pairwise.eq_of_mem_iff h.order h'.order fun t => (h.mem t).trans (h'.mem t).symm

theorem lists_takeWhere (s : Slots) (select : Service → Bool) :
    Lists s.toFinmap select (s.takeWhere select).1 := by
  refine ⟨s.pairwise_tickets (Service.pairwise_all.filter _), fun t => ?_⟩
  change t ∈ s.tickets (Service.all.filter select) ↔ _
  rw [mem_tickets, List.mem_filter, lookup_toFinmap, and_iff_right (Service.mem_all _)]

theorem does_call (s : Slots) (c : Call) :
    Does s.toFinmap c (s.call c).1 (s.call c).2.toFinmap := by
  cases c with
  | occupy r now =>
    cases free : s.isOpen r.kind with
    | true =>
      rw [call_occupy_of_open free]
      exact .busy (mem_toFinmap.2 free)
    | false =>
      rw [call_occupy_of_free free, place, toFinmap_set]
      exact .opened (by rw [mem_toFinmap, free]; exact Bool.false_ne_true)
  | mark k dispatched =>
    cases held : s.get k with
    | none =>
      have same : s.mark k dispatched = s := by
        rw [mark, held]
        exact close_of_not_isOpen (by rw [isOpen, held]; rfl)
      change Does _ _ .done (s.mark k dispatched).toFinmap
      rw [same]
      refine .unmarked ?_
      rw [← Finmap.lookup_eq_none, lookup_toFinmap, held]
    | some t =>
      change Does _ _ .done (s.mark k dispatched).toFinmap
      rw [mark, held, Option.map_some, toFinmap_set]
      exact .marked (by rw [lookup_toFinmap, held])
  | requeue =>
    refine .requeued fun k => ?_
    rw [lookup_toFinmap, lookup_toFinmap]
    exact s.get_requeue k
  | take k =>
    have does : Does s.toFinmap (.take k) _ _ := .taken
    rwa [lookup_toFinmap, ← toFinmap_close] at does
  | takeWhere select =>
    refine .removed (s.lists_takeWhere select) fun k => ?_
    rw [lookup_toFinmap, lookup_toFinmap]
    exact s.get_takeWhere select k
  | drain =>
    change Does _ _ _ (toFinmap {})
    rw [toFinmap_empty]
    exact .drained (s.lists_takeWhere _)

/-- A call leaves no choice. -/
theorem Does.unique {m m₁ m₂ : Finmap Ticket} {c : Call} {r₁ r₂ : Reply} (h₁ : Does m c r₁ m₁)
    (h₂ : Does m c r₂ m₂) : r₁ = r₂ ∧ m₁ = m₂ := by
  cases h₁ with
  | opened free =>
    cases h₂ with
    | opened => exact ⟨rfl, rfl⟩
    | busy taken => exact absurd taken free
  | busy taken =>
    cases h₂ with
    | opened free => exact absurd taken free
    | busy => exact ⟨rfl, rfl⟩
  | marked held =>
    cases h₂ with
    | marked held' =>
      cases held.symm.trans held'
      exact ⟨rfl, rfl⟩
    | unmarked absent => exact absurd (Finmap.mem_of_lookup_eq_some held) absent
  | unmarked absent =>
    cases h₂ with
    | marked held => exact absurd (Finmap.mem_of_lookup_eq_some held) absent
    | unmarked => exact ⟨rfl, rfl⟩
  | requeued waits =>
    cases h₂ with
    | requeued waits' => exact ⟨rfl, Finmap.ext_lookup fun k => (waits k).trans (waits' k).symm⟩
  | taken =>
    cases h₂
    exact ⟨rfl, rfl⟩
  | removed lists rest =>
    cases h₂ with
    | removed lists' rest' =>
      exact ⟨congrArg _ (lists.eq lists'), Finmap.ext_lookup fun k => (rest k).trans (rest' k).symm⟩
  | drained lists =>
    cases h₂ with
    | drained lists' => exact ⟨congrArg _ (lists.eq lists'), rfl⟩

/-- The slots do with a call what a map does. -/
theorem does_iff {s : Slots} {c : Call} {r : Reply} {m : Finmap Ticket} :
    Does s.toFinmap c r m ↔ r = (s.call c).1 ∧ m = (s.call c).2.toFinmap := by
  constructor
  · intro does
    exact does.unique (s.does_call c)
  · rintro ⟨rfl, rfl⟩
    exact s.does_call c

theorem plays_iff {cs : List Call} {rs : List Reply} {m : Finmap Ticket} :
    Plays cs rs m ↔ rs = replies cs ∧ m = (after cs).toFinmap := by
  induction cs generalizing rs m with
  | nil =>
    rw [after, toFinmap_empty]
    constructor
    · rintro ⟨⟩
      exact ⟨rfl, rfl⟩
    · rintro ⟨rfl, rfl⟩
      exact .start
  | cons c cs ih =>
    constructor
    · intro plays
      cases plays with
      | call earlier does =>
        obtain ⟨rfl, rfl⟩ := ih.1 earlier
        obtain ⟨rfl, rfl⟩ := does_iff.1 does
        exact ⟨rfl, rfl⟩
    · rintro ⟨rfl, rfl⟩
      exact .call (ih.2 ⟨rfl, rfl⟩) (does_call _ c)

/-! ## What goes in and what comes out -/

/-- What a ticket says of its request whether or not this rides on something. -/
def entry (t : AnyTicket) : Request × Nat := (t.request, t.ticket.issued)

/-- The entries of all open requests. -/
def entries (s : Slots) : List (Request × Nat) := (s.tickets Service.all).map entry

/-- The request that a call, answered so, has opened, and its time. -/
def Call.opens? : Call → Reply → Option (Request × Nat)
  | .occupy r now, .opened (.ok ()) => some (r, now)
  | _, _ => none

/-- The tickets that a reply hands out. -/
def Reply.tickets : Reply → List AnyTicket
  | .taken t => t.toList
  | .removed ts => ts
  | .opened _ | .done => []

/-- The requests that were opened in a sequence of calls, the latest first. -/
def opened : List Call → List (Request × Nat)
  | [] => []
  | c :: cs => (c.opens? (reply c cs)).toList ++ opened cs

/-- The tickets that were handed out. -/
def removed : List Call → List AnyTicket
  | [] => []
  | c :: cs => (reply c cs).tickets ++ removed cs

theorem entries_congr {s u : Slots}
    (h : ∀ k, (s.get k).map (fun t => (Request.mk k t.payload, t.issued)) =
      (u.get k).map fun t => (Request.mk k t.payload, t.issued)) : s.entries = u.entries := by
  unfold entries tickets
  rw [List.map_filterMap, List.map_filterMap]
  refine List.filterMap_congr fun k _ => ?_
  rw [Option.map_map, Option.map_map]
  exact h k

theorem entries_mark (s : Slots) (k : Service) (dispatched : Bool) :
    (s.mark k dispatched).entries = s.entries := by
  refine entries_congr fun j => ?_
  by_cases own : j = k
  · subst own
    rw [get_mark_self, Option.map_map]
    rfl
  · rw [get_mark_ne s own]

theorem entries_requeue (s : Slots) : s.requeue.entries = s.entries := by
  refine entries_congr fun k => ?_
  rw [get_requeue, Option.map_map]
  rfl

/-- What is closed and what is left is all that there was. -/
theorem entries_takeWhere (s : Slots) (select : Service → Bool) :
    s.entries.Perm ((s.takeWhere select).1.map entry ++ (s.takeWhere select).2.entries) := by
  have left : (s.takeWhere select).2.tickets Service.all =
      s.tickets (Service.all.filter (!select ·)) := by
    unfold tickets
    rw [List.filterMap_filter]
    refine List.filterMap_congr fun k _ => ?_
    rw [get_takeWhere]
    cases select k <;> rfl
  have split : (Service.all.filter select ++ Service.all.filter (!select ·)).Perm Service.all :=
    List.filter_append_perm select Service.all
  unfold entries
  rw [left, ← List.map_append]
  refine List.Perm.map entry ?_
  change (Service.all.filterMap _).Perm (List.filterMap _ _ ++ List.filterMap _ _)
  rw [← List.filterMap_append]
  exact (split.filterMap _).symm

/-- Closing one place is closing the places of one kind. -/
theorem takeWhere_eq_take (s : Slots) (k : Service) :
    s.takeWhere (· == k) = ((s.held k).toList, s.close k) := by
  refine Prod.ext ?_ (ext_get fun j => ?_)
  · change s.tickets (Service.all.filter (· == k)) = _
    rw [Service.filter_all_eq, tickets, held]
    cases get : s.get k <;> simp [get]
  · rw [get_takeWhere]
    by_cases own : j = k
    · subst own
      simp
    · simp [own, get_close_ne s own]

theorem entries_close (s : Slots) (k : Service) :
    s.entries.Perm ((s.held k).toList.map entry ++ (s.close k).entries) := by
  have split := s.entries_takeWhere (· == k)
  rwa [takeWhere_eq_take] at split

theorem entries_place {s : Slots} {r : Request} (free : s.isOpen r.kind = false) (now : Nat) :
    (s.place r now).entries.Perm ((r, now) :: s.entries) := by
  have split := (s.place r now).entries_close r.kind
  rwa [close_place free, held, get_place_self] at split

/-- A call neither loses a request nor makes a second one of it. -/
theorem entries_call (s : Slots) (c : Call) :
    ((c.opens? (s.call c).1).toList ++ s.entries).Perm
      ((s.call c).1.tickets.map entry ++ (s.call c).2.entries) := by
  cases c with
  | occupy r now =>
    cases free : s.isOpen r.kind with
    | true =>
      rw [call_occupy_of_open free]
      exact .refl _
    | false =>
      rw [call_occupy_of_free free]
      exact (entries_place free now).symm
  | mark k dispatched => exact .of_eq (s.entries_mark k dispatched).symm
  | requeue => exact .of_eq s.entries_requeue.symm
  | take k => exact s.entries_close k
  | takeWhere select => exact s.entries_takeWhere select
  | drain => exact s.entries_takeWhere fun _ => true

theorem accounted (cs : List Call) :
    (opened cs).Perm ((removed cs).map entry ++ (after cs).entries) := by
  induction cs with
  | nil => exact .refl _
  | cons c cs ih =>
    have step := entries_call (after cs) c
    calc (c.opens? (reply c cs)).toList ++ opened cs
      List.Perm _ ((c.opens? (reply c cs)).toList ++
          ((removed cs).map entry ++ (after cs).entries)) := ih.append_left _
      List.Perm _ ((removed cs).map entry ++
          ((c.opens? (reply c cs)).toList ++ (after cs).entries)) := List.perm_append_comm_assoc ..
      List.Perm _ ((removed cs).map entry ++
          ((reply c cs).tickets.map entry ++ (after (c :: cs)).entries)) := step.append_left _
      List.Perm _ ((reply c cs).tickets.map entry ++
          ((removed cs).map entry ++ (after (c :: cs)).entries)) := List.perm_append_comm_assoc ..
      List.Perm _ ((removed (c :: cs)).map entry ++ (after (c :: cs)).entries) := by
        rw [removed, List.map_append, List.append_assoc]

/-! ## The most urgent request -/

/-- A map holds a request that does not ride on anything. -/
def Waits (m : Finmap Ticket) (k : Service) (t : Ticket k) : Prop :=
  m.lookup k = some t ∧ t.dispatched = false

theorem pendingRequest_eq_some_iff {s : Slots} {k : Service} {r : Request} :
    s.pendingRequest k = some r ↔ ∃ t, Waits s.toFinmap k t ∧ r = ⟨k, t.payload⟩ := by
  rw [pendingRequest, Option.map_eq_some_iff]
  refine exists_congr fun t => and_congr ?_ eq_comm
  rw [pending, Option.filter_eq_some_iff, Waits, lookup_toFinmap, Bool.not_eq_true']

theorem pendingRequest_eq_none_iff {s : Slots} {k : Service} :
    s.pendingRequest k = none ↔ ∀ t, ¬Waits s.toFinmap k t := by
  constructor
  · intro none t waits
    cases none.symm.trans (pendingRequest_eq_some_iff.2 ⟨t, waits, rfl⟩)
  · intro none
    refine Option.eq_none_iff_forall_ne_some.2 fun r found => ?_
    obtain ⟨t, waits, -⟩ := pendingRequest_eq_some_iff.1 found
    exact none t waits

theorem nextOutOfCycle_eq_some_iff {s : Slots} {r : Request} :
    s.nextOutOfCycle = some r ↔
      ∃ before later t, Service.outOfCycle = before ++ r.kind :: later ∧
        Waits s.toFinmap r.kind t ∧ t.payload = r.payload ∧
        ∀ j ∈ before, ∀ u, ¬Waits s.toFinmap j u := by
  rw [nextOutOfCycle, List.findSome?_eq_some_iff]
  constructor
  · rintro ⟨before, k, later, order, found, none⟩
    obtain ⟨t, waits, rfl⟩ := pendingRequest_eq_some_iff.1 found
    exact ⟨before, later, t, order, waits, rfl,
      fun j mem => pendingRequest_eq_none_iff.1 (none j mem)⟩
  · rintro ⟨before, later, t, order, waits, same, none⟩
    refine ⟨before, r.kind, later, order, pendingRequest_eq_some_iff.2 ⟨t, waits, ?_⟩,
      fun j mem => pendingRequest_eq_none_iff.2 (none j mem)⟩
    rw [same]

theorem nextOutOfCycle_eq_none_iff {s : Slots} :
    s.nextOutOfCycle = none ↔ ∀ k ∈ Service.outOfCycle, ∀ t, ¬Waits s.toFinmap k t := by
  rw [nextOutOfCycle, List.findSome?_eq_none_iff]
  exact forall₂_congr fun k _ => pendingRequest_eq_none_iff

/-! ## Any sequence of calls -/

/-- After any sequence of calls on numbered places each holds a request of its own kind, if any. The
calls have been answered as the slots answer them and the places are theirs, and the slots have
answered and hold what a finite map would. The requests that were opened are those that were handed
out and those that are still open, as often as they were opened. The number of open requests is the
size of the map, and the next request to travel as a service frame is the first in the order of
`Service.outOfCycle` that the map holds and that does not ride on anything. -/
theorem behaves_as_map (cs : List Call) :
    (Row.after cs).Own ∧
    (Row.replies cs = replies cs ∧ Row.after cs = (after cs).row ∧
      (Row.after cs).count = (after cs).count ∧
      (Row.after cs).next.map AnyTicket.request = (after cs).nextOutOfCycle) ∧
    (∀ rs m, Plays cs rs m ↔ rs = replies cs ∧ m = (after cs).toFinmap) ∧
    (∀ k, (after cs).toFinmap.lookup k = (after cs).get k) ∧
    (opened cs).Perm ((removed cs).map entry ++ (after cs).entries) ∧
    (after cs).count = (after cs).toFinmap.keys.card ∧
    (∀ r, (after cs).nextOutOfCycle = some r ↔
      ∃ before later t, Service.outOfCycle = before ++ r.kind :: later ∧
        Waits (after cs).toFinmap r.kind t ∧ t.payload = r.payload ∧
        ∀ j ∈ before, ∀ u, ¬Waits (after cs).toFinmap j u) ∧
    ((after cs).nextOutOfCycle = none ↔
      ∀ k ∈ Service.outOfCycle, ∀ t, ¬Waits (after cs).toFinmap k t) := by
  have places := row_after cs
  have own : (Row.after cs).Own := places ▸ own_row _
  have count : (Row.after cs).count = (after cs).count := places ▸ count_row _
  have next : (Row.after cs).next.map AnyTicket.request = (after cs).nextOutOfCycle :=
    places ▸ next_row _
  exact ⟨own, ⟨replies_row cs, places, count, next⟩, fun _ _ => plays_iff, lookup_toFinmap _,
    accounted cs, count_eq_card _, fun _ => nextOutOfCycle_eq_some_iff, nextOutOfCycle_eq_none_iff⟩

/-- An event that rides on a frame is passed over. -/
theorem behaves_as_map_marked :
    let cs : List Call := [.mark .event true, .occupy ⟨.event, 0x1800⟩ 5, .occupy ⟨.getCom, ()⟩ 0]
    (∃ t, (Row.after cs)[7]? = some (some t) ∧ Service.all[7]? = some t.kind) ∧
      (after cs).nextOutOfCycle = some ⟨.getCom, ()⟩ ∧
      (∃ t, Waits (after cs).toFinmap .getCom t) ∧ (∀ t, ¬Waits (after cs).toFinmap .event t) ∧
      (after cs).toFinmap.keys.card = 2 ∧ (opened cs).Perm (after cs).entries := by
  intro cs
  have held : (Row.after cs)[7]? = some (some ⟨.event, ⟨0x1800, 5, true⟩⟩) := by rfl
  have found : (after cs).nextOutOfCycle = some ⟨.getCom, ()⟩ := by rfl
  have two : (after cs).count = 2 := by rfl
  obtain ⟨own, -, -, -, kept, size, next, -⟩ := behaves_as_map cs
  obtain ⟨before, later, t, order, waits, -, passed⟩ := (next _).1 found
  refine ⟨⟨_, held, own.kind_at 7 _ held⟩, found, ⟨t, waits⟩, passed .event ?_, size.symm.trans two,
    kept⟩
  cases before with
  | nil => cases order
  | cons k before =>
    obtain ⟨rfl, -⟩ := List.cons.inj order
    exact List.mem_cons_self

end Slots

end Sdci
