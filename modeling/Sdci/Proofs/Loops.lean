import Sdci.Proofs.Deadlines
import Sdci.Proofs.LocalService
import Sdci.Proofs.Places

/-! # The loops of a tick

A tick serves timers as long as one is due, and in SIO it answers requests as long as one waits.
Neither loop counts its rounds. The first ends because no timer is started where one is served, the
second because a request that is answered is closed, in any state of the link and with anything in
the slots. All sessions are meant below, reached or not. A place has the type of its kind there, so
nothing of another kind can stand in it; of numbered places that hold, and keep, their own kinds
nothing is left out.

* `Loop`: the rounds of a loop from a state to the one where it stops.
* `Session.nextExpiry`, `Session.nextLocal`: one round of each.
* `Session.loop_expireTimers`, `Session.loop_serveAllLocally`: the loops are what they stand for.
* `Session.loops_end`: what each round and each loop does.
-/

namespace Sdci
set_option autoImplicit false

/-- A loop goes on while there is a next state. It has made so many rounds when there is none. -/
inductive Loop {α : Type} (next : α → Option α) : Nat → α → α → Prop
  | over {a : α} (last : next a = none) : Loop next 0 a a
  | round {n : Nat} {a b c : α} (more : next a = some b) (rest : Loop next n b c) :
      Loop next (n + 1) a c

/-! ## Requests that wait -/

namespace Slots

variable {s : Slots}

/-- The kinds of service frames whose requests do not ride on anything, the most urgent first. -/
def waiting (s : Slots) : List Service := Service.outOfCycle.filter s.isPending

theorem isPending_close (s : Slots) (j k : Service) :
    (s.close j).isPending k = (k != j && s.isPending k) := by
  by_cases own : k = j
  · subst own
    simp [isPending, pending]
  · simp [isPending, pending, get_close_ne s own, own]

theorem isPending_of_pendingRequest {k : Service} {r : Request} (h : s.pendingRequest k = some r) :
    s.isPending k = true := by
  obtain ⟨t, pending, -⟩ := Option.map_eq_some_iff.1 h
  rw [isPending, pending]
  rfl

theorem isPending_eq_false {k : Service} (h : s.pendingRequest k = none) :
    s.isPending k = false := by
  rw [isPending, Option.map_eq_none_iff.1 h]
  rfl

/-- Of kinds that are asked for one after the other the first that waits is closed. -/
theorem filter_isPending_of_findSome? {ks : List Service} (nodup : ks.Nodup) {r : Request}
    (first : ks.findSome? s.pendingRequest = some r) :
    ks.filter s.isPending = r.kind :: ks.filter (s.close r.kind).isPending := by
  induction ks with
  | nil => cases first
  | cons k ks ih =>
    obtain ⟨once, others⟩ := List.nodup_cons.1 nodup
    rw [List.findSome?_cons] at first
    cases request : s.pendingRequest k with
    | none =>
      rw [request] at first
      have still := isPending_eq_false request
      have closed : (s.close r.kind).isPending k = false := by
        rw [isPending_close, still, Bool.and_false]
      rw [List.filter_cons_of_neg (by rw [still]; exact Bool.false_ne_true),
        List.filter_cons_of_neg (by rw [closed]; exact Bool.false_ne_true)]
      exact ih others first
    | some found =>
      rw [request] at first
      obtain rfl := Option.some.inj first
      obtain rfl := (isOpen_of_pendingRequest request).1
      have closed : (s.close found.kind).isPending found.kind = false := by
        rw [isPending_close, bne_self_eq_false, Bool.false_and]
      rw [List.filter_cons_of_pos (isPending_of_pendingRequest request),
        List.filter_cons_of_neg (by rw [closed]; exact Bool.false_ne_true)]
      refine congrArg _ (List.filter_congr fun j mem => ?_)
      have other : j ≠ found.kind := fun same => once (same ▸ mem)
      rw [isPending_close, bne_iff_ne.2 other, Bool.true_and]

theorem waiting_of_next {r : Request} (next : s.nextOutOfCycle = some r) :
    s.waiting = r.kind :: (s.close r.kind).waiting :=
  filter_isPending_of_findSome? (by decide) next

theorem waiting_eq_nil (none : s.nextOutOfCycle = none) : s.waiting = [] := by
  refine List.filter_eq_nil_iff.2 fun k mem => ?_
  rw [isPending_eq_false (List.findSome?_eq_none_iff.1 none k mem)]
  exact Bool.false_ne_true

end Slots

namespace Session

variable {σ : Type} [Application σ]

/-! ## Timers -/

/-- One round: the timer that is due first is taken off and served. -/
def nextExpiry (now : Nat) (s : Session σ) : Option (Session σ) :=
  (s.device.line.timers.due? now).map s.serveTimer

/-- A timer that is served does not run any more, and what runs then was started before. -/
theorem stops_of_serveTimer (s : Session σ) (k : Timer) :
    (s.serveTimer k).device.line.timers.isRunning k = false ∧
      ∀ j r, (s.serveTimer k).device.line.timers.get j = some r →
        s.device.line.timers.get j = some r := by
  rcases s.timers_serveTimer k with stopped | none
  · rw [stopped]
    refine ⟨?_, fun j r get => Timers.get_of_get_stop get⟩
    rw [Timers.isRunning, Timers.stop, Timers.get_set_self]
    rfl
  · rw [none]
    refine ⟨?_, fun j r get => ?_⟩
    · cases k <;> rfl
    · cases j <;> cases get

theorem loop_expireTimers (s : Session σ) (now : Nat) :
    ∃ n ≤ s.device.line.timers.count, Loop (nextExpiry now) n s (s.expireTimers now) := by
  fun_induction expireTimers s now with
  | case1 s quiet => exact ⟨0, Nat.zero_le _, .over (by rw [nextExpiry, quiet]; rfl)⟩
  | case2 s timer due ih =>
    obtain ⟨n, few, loop⟩ := ih
    have fewer := count_serveTimer (Timers.isRunning_of_due due)
    exact ⟨n + 1, by omega, .round (by rw [nextExpiry, due]; rfl) loop⟩

theorem not_due_expireTimers (s : Session σ) (now : Nat) (k : Timer) (r : Running)
    (get : (s.expireTimers now).device.line.timers.get k = some r) : now < r.deadline :=
  Timers.due?_eq_none_iff.1 (s.due_expireTimers now) k r get

/-! ## Requests served without a frame -/

/-- One round: the most urgent request is answered from the store. -/
def nextLocal (s : Session σ) : Option (Session σ) :=
  s.device.slots.nextOutOfCycle.map s.serveLocally

theorem get_serveLocally (s : Session σ) (request : Request) (k : Service) :
    (s.serveLocally request).device.slots.get k =
      if k = request.kind then none else s.device.slots.get k := by
  rw [slots_serveLocally]
  split
  · rename_i own
    subst own
    exact Slots.get_close_self ..
  · rename_i other
    exact Slots.get_close_ne _ other

/-- There is a round for each request that waits. -/
theorem loop_serveAllLocally (s : Session σ) :
    Loop nextLocal s.device.slots.waiting.length s s.serveAllLocally := by
  fun_induction serveAllLocally s with
  | case1 s none =>
    rw [Slots.waiting_eq_nil none]
    exact .over (by rw [nextLocal, none]; rfl)
  | case2 s request next ih =>
    rw [Slots.waiting_of_next next]
    rw [slots_serveLocally] at ih
    exact .round (by rw [nextLocal, next]; rfl) ih

theorem get_serveAllLocally (s : Session σ) (k : Service) :
    s.serveAllLocally.device.slots.get k =
      if k ∈ s.device.slots.waiting then none else s.device.slots.get k := by
  fun_induction serveAllLocally s with
  | case1 s none =>
    rw [Slots.waiting_eq_nil none]
    rfl
  | case2 s request next ih =>
    rw [ih, slots_serveLocally, Slots.waiting_of_next next]
    by_cases own : k = request.kind
    · subst own
      simp
    · simp [own, Slots.get_close_ne _ own]

theorem confirmed_serveAllLocally (s : Session σ) :
    s.serveAllLocally.env.trace.confirmations.map Prod.fst =
      s.device.slots.waiting.reverse ++ s.env.trace.confirmations.map Prod.fst := by
  fun_induction serveAllLocally s with
  | case1 s none =>
    rw [Slots.waiting_eq_nil none]
    rfl
  | case2 s request next ih =>
    rw [ih, slots_serveLocally, Slots.waiting_of_next next,
      s.confirmations_serveLocally (Slots.isOpen_of_nextOutOfCycle next), List.map_cons,
      List.reverse_cons, List.append_assoc]
    rfl

/-! ## Both loops -/

/-- Whatever a device holds and at whatever time, the service of timers ends after a round for each
running timer at most. Each round takes off a timer that ran, and no timer runs then that did not
run before in the same way; at the end none is due. Answering from the store ends too, after as many
rounds as there are requests of service frames that wait. Each round closes the one request it is
about, confirms it once and calls nothing else; at the end none of these waits, one confirmation has
been made for each, the most urgent first, and all other requests are as they were. Numbered
places that each have their own kind are those of some timers or slots, and calls keep them so. -/
theorem loops_end (s : Session σ) (now : Nat) :
    ((∀ row : Timers.Row,
        (row.Own ↔ ∃ t : Timers, t.row = row) ∧ (row.Own → ∀ c, (row.call c).2.Own)) ∧
      ∀ row : Slots.Row,
        (row.Own ↔ ∃ t : Slots, t.row = row) ∧ (row.Own → ∀ c, (row.call c).2.Own)) ∧
    (∃ n ≤ s.device.line.timers.count, Loop (nextExpiry now) n s (s.expireTimers now)) ∧
    (∀ u v : Session σ, u.nextExpiry now = some v →
      (∃ k, u.device.line.timers.isRunning k = true ∧
        v.device.line.timers.isRunning k = false) ∧
      ∀ k r, v.device.line.timers.get k = some r → u.device.line.timers.get k = some r) ∧
    (∀ k r, (s.expireTimers now).device.line.timers.get k = some r → now < r.deadline) ∧
    Loop nextLocal s.device.slots.waiting.length s s.serveAllLocally ∧
    (∀ u v : Session σ, u.nextLocal = some v →
      ∃ r, u.device.slots.nextOutOfCycle = some r ∧ u.device.slots.isOpen r.kind = true ∧
        (∀ k, v.device.slots.get k = if k = r.kind then none else u.device.slots.get k) ∧
        ∃ outcome a, v.env.trace.bare = .confirmed r.kind outcome a :: u.env.trace.bare) ∧
    (∀ k ∈ Service.outOfCycle, s.serveAllLocally.device.slots.isPending k = false) ∧
    (∀ k, s.serveAllLocally.device.slots.get k =
      if k ∈ s.device.slots.waiting then none else s.device.slots.get k) ∧
    s.serveAllLocally.env.trace.confirmations.map Prod.fst =
      s.device.slots.waiting.reverse ++ s.env.trace.confirmations.map Prod.fst := by
  refine ⟨⟨fun _ => ⟨Timers.Row.own_iff, Timers.Row.own_call⟩,
      fun _ => ⟨Slots.Row.own_iff, Slots.Row.own_call⟩⟩,
    s.loop_expireTimers now, fun u v served => ?_, s.not_due_expireTimers now,
    s.loop_serveAllLocally, fun u v served => ?_, fun k mem => ?_, s.get_serveAllLocally,
    s.confirmed_serveAllLocally⟩
  · obtain ⟨k, due, rfl⟩ := Option.map_eq_some_iff.1 served
    obtain ⟨stopped, older⟩ := u.stops_of_serveTimer k
    exact ⟨⟨k, Timers.isRunning_of_due due, stopped⟩, older⟩
  · obtain ⟨r, next, rfl⟩ := Option.map_eq_some_iff.1 served
    have isOpen := Slots.isOpen_of_nextOutOfCycle next
    obtain ⟨a, trace⟩ := u.bare_serveLocally isOpen
    exact ⟨r, next, isOpen, u.get_serveLocally r, _, a, trace⟩
  · refine Slots.isPending_eq_false ?_
    exact List.findSome?_eq_none_iff.1 s.nextOutOfCycle_serveAllLocally k mem

/-- In the middle of an exchange, which is no time to answer from the store. -/
theorem loops_end_exchanging :
    let s := Bench.exchanging
    (s.device.line.timers.row.call (.expire 100000000)).2.Own ∧
    (s.device.slots.row.call .requeue).2.Own ∧
    (∃ v, s.nextExpiry 100000000 = some v ∧
      ∃ k, s.device.line.timers.isRunning k = true ∧ v.device.line.timers.isRunning k = false) ∧
    (∃ v r, s.nextLocal = some v ∧ s.device.slots.nextOutOfCycle = some r ∧ r.kind = .event ∧
      v.device.slots.get r.kind = none) ∧
    s.device.slots.waiting = [.event] ∧ Loop nextLocal 1 s s.serveAllLocally ∧
    s.serveAllLocally.device.slots.get .event = none ∧
    s.serveAllLocally.device.slots.get .input = s.device.slots.get .input := by
  intro s
  have due : (s.nextExpiry 100000000).isSome = true := by decide +kernel
  have first : s.device.slots.nextOutOfCycle.map Request.kind = some .event := by decide +kernel
  have waiting : s.device.slots.waiting = [.event] := by decide +kernel
  obtain ⟨⟨timers, slots⟩, -, expiry, -, loop, round, -, left, -⟩ := loops_end s 100000000
  obtain ⟨v, served⟩ := Option.isSome_iff_exists.1 due
  obtain ⟨r, next, event⟩ := Option.map_eq_some_iff.1 first
  have served' : s.nextLocal = some (s.serveLocally r) := by rw [nextLocal, next]; rfl
  obtain ⟨_, next', -, closed, -⟩ := round s _ served'
  cases next.symm.trans next'
  rw [waiting] at loop left
  exact ⟨(timers _).2 (Timers.own_row _) _, (slots _).2 (Slots.own_row _) _,
    ⟨v, served, (expiry s v served).1⟩, ⟨_, r, served', next, event,
    (closed r.kind).trans (if_pos rfl)⟩, waiting, loop, left .event, left .input⟩

end Session

end Sdci
