import Sdci.Proofs.Deadlines

/-! # Timers over a sequence of calls

Each start of a timer makes an instance of it, which lives until the timer is stopped, started again
or handed out. Whatever the calls and their times, the timers held are the living instances, and a
timer is handed out when its instance is the first of those that are due.

* `Timers.Sooner`: the order in which timers are due.
* `Timers.due?_eq_some_iff`, `Timers.nextDeadline_eq_some_iff`: what is found out about deadlines.
* `Timers.expireAll`: asks for an expired timer until there is none.
* `Timers.live`, `Timers.delivered`: the instance that lives after a sequence of calls, and those
  that were handed out.
* `Timers.expiry_in_order`: what holds after any sequence of calls.
-/

namespace Sdci
set_option autoImplicit false

/-- Of timers with equal deadlines the one with the lowest rank is served first. -/
def Timer.rank : Timer → Nat
  | modeSwitch => 0
  | transfer => 1
  | maxCycle => 2

namespace Timers

/-! ## The order of deadlines -/

/-- Of two running timers the first has the earlier deadline, or the same and the lower rank. -/
def Sooner (t : Timers) (j k : Timer) : Prop :=
  ∃ r s, t.get j = some r ∧ t.get k = some s ∧
    (r.deadline < s.deadline ∨ r.deadline = s.deadline ∧ j.rank < k.rank)

theorem Sooner.asymm {t : Timers} {j k : Timer} (h : t.Sooner j k) : ¬t.Sooner k j := by
  rintro ⟨s, r, gets, getr, order⟩
  obtain ⟨_, _, getr', gets', order'⟩ := h
  cases getr.symm.trans getr'
  cases gets.symm.trans gets'
  omega

/-- The earliest entry stands where no entry before it is as early, and none after it earlier. -/
theorem earliest_eq_some {l : List (Timer × Nat)} {e : Timer × Nat} (h : earliest l = some e) :
    ∃ before later, l = before ++ e :: later ∧ (∀ x ∈ before, e.2 < x.2) ∧
      ∀ x ∈ later, e.2 ≤ x.2 := by
  induction l generalizing e with
  | nil => cases h
  | cons a rest ih =>
    rw [earliest] at h
    cases found : earliest rest with
    | none =>
      rw [found] at h
      cases h
      rw [earliest_eq_none_iff.1 found]
      exact ⟨[], [], rfl, List.forall_mem_nil _, List.forall_mem_nil _⟩
    | some e' =>
      obtain ⟨before, later, rfl, lt, le⟩ := ih found
      rw [found] at h
      by_cases less : e'.2 < a.2
      · simp only [less, if_true, Option.some.injEq] at h
        subst h
        exact ⟨a :: before, later, rfl, List.forall_mem_cons.2 ⟨less, lt⟩, le⟩
      · simp only [less, if_false, Option.some.injEq] at h
        subst h
        have least := Nat.not_lt.1 less
        refine ⟨[], _, rfl, List.forall_mem_nil _, fun x mem => ?_⟩
        rcases List.mem_append.1 mem with old | new
        · exact Nat.le_trans least (Nat.le_of_lt (lt x old))
        · rcases List.mem_cons.1 new with rfl | new
          · exact least
          · exact Nat.le_trans least (le x new)

theorem pairwise_pending (t : Timers) :
    (t.pending Timer.all).Pairwise fun a b => a.1.rank < b.1.rank := by
  have ranks : Timer.all.Pairwise fun j k => j.rank < k.rank := by decide
  refine ranks.filterMap _ fun j k less a found b found' => ?_
  obtain ⟨_, -, rfl⟩ := Option.map_eq_some_iff.1 found
  obtain ⟨_, -, rfl⟩ := Option.map_eq_some_iff.1 found'
  exact less

/-- Of timers in the order of their ranks the earliest is the first of all. -/
theorem first_of_earliest {l : List (Timer × Nat)} {e : Timer × Nat}
    (ranked : l.Pairwise fun a b => a.1.rank < b.1.rank) (h : earliest l = some e) :
    ∀ x ∈ l, x = e ∨ e.2 < x.2 ∨ e.2 = x.2 ∧ e.1.rank < x.1.rank := by
  obtain ⟨before, later, rfl, lt, le⟩ := earliest_eq_some h
  intro x mem
  rcases List.mem_append.1 mem with early | rest
  · exact .inr (.inl (lt x early))
  rcases List.mem_cons.1 rest with same | after
  · exact .inl same
  · have rank := (List.pairwise_cons.1 (List.pairwise_append.1 ranked).2.1).1 x after
    exact .inr ((Nat.lt_or_eq_of_le (le x after)).imp_right fun equal => ⟨equal, rank⟩)

theorem first_of_due {t : Timers} {now : Nat} {k : Timer} (h : t.due? now = some k) :
    ∃ r, t.get k = some r ∧ r.deadline ≤ now ∧
      ∀ j, j ≠ k → t.isRunning j = true → t.Sooner k j := by
  obtain ⟨⟨_, deadline⟩, found, rfl⟩ := Option.map_eq_some_iff.1 h
  obtain ⟨held, due⟩ := List.mem_filter.1 (earliest_mem found)
  obtain ⟨r, get, rfl⟩ := mem_pending.1 held
  have due : r.deadline ≤ now := of_decide_eq_true due
  refine ⟨r, get, due, fun j other running => ?_⟩
  obtain ⟨s, gets⟩ := Option.isSome_iff_exists.1 running
  refine ⟨r, s, get, gets, ?_⟩
  -- A timer that is not due yet has a later deadline anyway.
  by_cases late : now < s.deadline
  · exact .inl (Nat.lt_of_le_of_lt due late)
  have mem : (j, s.deadline) ∈ (t.pending Timer.all).filter (·.2 ≤ now) :=
    List.mem_filter.2 ⟨mem_pending.2 ⟨s, gets, rfl⟩, decide_eq_true (Nat.not_lt.1 late)⟩
  rcases first_of_earliest (t.pairwise_pending.filter _) found _ mem with same | order
  · exact absurd (Prod.mk.inj same).1 other
  · exact order

/-- A timer is due at a time if it is the first of all and its deadline is not after that time. -/
theorem due?_eq_some_iff {t : Timers} {now : Nat} {k : Timer} :
    t.due? now = some k ↔
      ∃ r, t.get k = some r ∧ r.deadline ≤ now ∧
        ∀ j, j ≠ k → t.isRunning j = true → t.Sooner k j := by
  refine ⟨first_of_due, fun ⟨r, get, due, soonest⟩ => ?_⟩
  cases found : t.due? now with
  | none => exact absurd due (Nat.not_le.2 (due?_eq_none_iff.1 found k r get))
  | some j =>
    obtain ⟨s, gets, -, soonest'⟩ := first_of_due found
    by_cases same : j = k
    · exact congrArg some same
    have running : t.isRunning k = true := by rw [isRunning, get]; rfl
    have running' : t.isRunning j = true := by rw [isRunning, gets]; rfl
    exact absurd (soonest' k (Ne.symm same) running) (soonest j same running').asymm

theorem nextDeadline_eq_none_iff {t : Timers} :
    t.nextDeadline = none ↔ ∀ k, t.get k = none := by
  rw [nextDeadline, Option.map_eq_none_iff, earliest_eq_none_iff, List.eq_nil_iff_forall_not_mem]
  constructor
  · intro none k
    refine Option.eq_none_iff_forall_ne_some.2 fun r get => ?_
    exact none _ (mem_pending.2 ⟨r, get, rfl⟩)
  · rintro none ⟨k, deadline⟩ mem
    obtain ⟨r, get, -⟩ := mem_pending.1 mem
    cases (none k).symm.trans get

theorem nextDeadline_eq_some_iff {t : Timers} {deadline : Nat} :
    t.nextDeadline = some deadline ↔
      (∃ k r, t.get k = some r ∧ r.deadline = deadline) ∧
        ∀ k r, t.get k = some r → deadline ≤ r.deadline := by
  have least {deadline : Nat} (h : t.nextDeadline = some deadline) :
      ∀ k r, t.get k = some r → deadline ≤ r.deadline := by
    intro k r get
    obtain ⟨⟨j, _⟩, found, rfl⟩ := Option.map_eq_some_iff.1 h
    rcases first_of_earliest t.pairwise_pending found _ (mem_pending.2 ⟨r, get, rfl⟩) with
      same | less | ⟨equal, -⟩
    · exact Nat.le_of_eq (Prod.mk.inj same).2.symm
    · exact Nat.le_of_lt less
    · exact Nat.le_of_eq equal
  refine ⟨fun h => ⟨deadline_of_next h, least h⟩, fun ⟨⟨k, r, get, same⟩, all⟩ => ?_⟩
  cases found : t.nextDeadline with
  | none => cases (nextDeadline_eq_none_iff.1 found k).symm.trans get
  | some other =>
    obtain ⟨j, s, gets, rfl⟩ := deadline_of_next found
    subst same
    exact congrArg some (Nat.le_antisymm (least found k r get) (all j s gets))

/-! ## All that is due -/

theorem expire_eq_some_iff {t u : Timers} {now : Nat} {k : Timer} :
    t.expire now = some (k, u) ↔ t.due? now = some k ∧ u = t.stop k := by
  rw [expire, Option.map_eq_some_iff]
  constructor
  · rintro ⟨_, due, same⟩
    cases same
    exact ⟨due, rfl⟩
  · rintro ⟨due, rfl⟩
    exact ⟨k, due, rfl⟩

/-- Asks for an expired timer until there is none: the timers handed out, the first first, and what
is left. -/
def expireAll (t : Timers) (now : Nat) : List Timer × Timers :=
  match _found : t.expire now with
  | none => ([], t)
  | some (k, u) => (k :: (expireAll u now).1, (expireAll u now).2)
termination_by t.count
decreasing_by
  all_goals
    obtain ⟨due, rfl⟩ := expire_eq_some_iff.1 _found
    have := t.count_stop (isRunning_of_due due)
    omega

theorem Sooner.of_stop {t : Timers} {i j k : Timer} (h : (t.stop i).Sooner j k) :
    t.Sooner j k := by
  obtain ⟨r, s, getr, gets, order⟩ := h
  exact ⟨r, s, get_of_get_stop getr, get_of_get_stop gets, order⟩

theorem expire_eq_none_iff {t : Timers} {now : Nat} :
    t.expire now = none ↔ ∀ k r, t.get k = some r → now < r.deadline := by
  rw [expire, Option.map_eq_none_iff, due?_eq_none_iff]

/-- Exactly the timers that are due are handed out, in the order of their deadlines, and no others
are touched. -/
theorem expireAll_spec (t : Timers) (now : Nat) :
    (t.expireAll now).1.Pairwise t.Sooner ∧
      (∀ k, k ∈ (t.expireAll now).1 ↔ ∃ r, t.get k = some r ∧ r.deadline ≤ now) ∧
      ∀ k, (t.expireAll now).2.get k = if k ∈ (t.expireAll now).1 then none else t.get k := by
  fun_induction expireAll t now with
  | case1 t found =>
    have late := expire_eq_none_iff.1 found
    refine ⟨.nil, fun k => ⟨nofun, fun ⟨r, get, due⟩ => ?_⟩, fun k => rfl⟩
    exact absurd due (Nat.not_le.2 (late k r get))
  | case2 t k u found ih =>
    obtain ⟨due, rfl⟩ := expire_eq_some_iff.1 found
    obtain ⟨r, get, elapsed, soonest⟩ := due?_eq_some_iff.1 due
    obtain ⟨order, mem, left⟩ := ih
    refine ⟨List.pairwise_cons.2 ⟨fun j later => ?_, order.imp Sooner.of_stop⟩, fun j => ?_,
      fun j => ?_⟩
    · obtain ⟨s, gets, -⟩ := (mem j).1 later
      have other : j ≠ k := by
        rintro rfl
        rw [get_stop, if_pos rfl] at gets
        cases gets
      refine soonest j other ?_
      rw [isRunning, get_of_get_stop gets]
      rfl
    · rw [List.mem_cons, mem, get_stop]
      by_cases same : j = k
      · subst same
        simp [get, elapsed]
      · simp [same]
    · rw [left, get_stop]
      by_cases same : j = k <;> simp [same]

/-! ## Calls -/

inductive Call
  | start (k : Timer) (duration : UInt32) (now : Nat)
  /-- Starts a timer whether it runs or not. -/
  | restart (k : Timer) (duration : UInt32) (now : Nat)
  | stop (k : Timer)
  | stopAll
  /-- Asks for a timer that has expired. -/
  | expire (now : Nat)

/-- What a call is answered, and the timers after it. -/
def call (t : Timers) : Call → Option Timer × Timers
  | .start k duration now => (none, t.start k duration now)
  | .restart k duration now => (none, t.start k duration now)
  | .stop k => (none, t.stop k)
  | .stopAll => (none, t.stopAll)
  | .expire now => ((t.expire now).map Prod.fst, (t.expire now).elim t Prod.snd)

/-- The timers after a sequence of calls, the latest first. -/
def after : List Call → Timers
  | [] => {}
  | c :: cs => ((after cs).call c).2

/-- What a call is answered after others. -/
def answer (c : Call) (cs : List Call) : Option Timer := ((after cs).call c).1

/-! ## Instances -/

/-- One start of a timer: how many calls came before it, and how long it is to run. -/
structure Instance where
  number : Nat
  running : Running
  deriving DecidableEq

def Instance.deadline (i : Instance) : Nat := i.running.deadline

namespace Call

/-- What a call starts of a timer. -/
def starts? (k : Timer) : Call → Option Running
  | start j duration now | restart j duration now => if k = j then some ⟨now, duration⟩ else none
  | _ => none

/-- Whether a call, answered so, ends what runs of a timer. -/
def ends (k : Timer) (answer : Option Timer) : Call → Bool
  | stop j => k == j
  | stopAll => true
  | expire _ => answer == some k
  | _ => false

end Call

/-- The instance of a timer that lives after a sequence of calls. -/
def live (k : Timer) : List Call → Option Instance
  | [] => none
  | c :: cs =>
    match c.starts? k with
    | some running => some ⟨cs.length, running⟩
    | none => if c.ends k (answer c cs) then none else live k cs

/-- The instances of a timer that were handed out, the latest first. -/
def delivered (k : Timer) : List Call → List Instance
  | [] => []
  | c :: cs =>
    if answer c cs = some k then (live k cs).toList ++ delivered k cs else delivered k cs

variable {k : Timer} {c : Call} {cs : List Call} {i : Instance}

theorem answer_expire (now : Nat) (cs : List Call) :
    answer (.expire now) cs = (after cs).due? now := by
  change ((after cs).expire now).map Prod.fst = _
  rw [expire]
  cases (after cs).due? now <;> rfl

theorem exists_expire_of_answer (h : answer c cs = some k) : ∃ now, c = .expire now := by
  cases c with
  | expire now => exact ⟨now, rfl⟩
  | _ => cases h

theorem get_after_expire (now : Nat) (cs : List Call) (k : Timer) :
    (after (.expire now :: cs)).get k =
      if answer (.expire now) cs = some k then none else (after cs).get k := by
  rw [answer_expire]
  change (((after cs).expire now).elim (after cs) Prod.snd).get k = _
  rw [expire]
  cases (after cs).due? now with
  | none => rfl
  | some j =>
    refine (get_stop ..).trans ?_
    simp only [Option.some.injEq, eq_comm]

/-- The timers held are the living instances. -/
theorem get_after (k : Timer) (cs : List Call) :
    (after cs).get k = (live k cs).map Instance.running := by
  induction cs with
  | nil => cases k <;> rfl
  | cons c cs ih =>
    cases c with
    | start j duration now | restart j duration now =>
      refine (get_start ..).trans ?_
      by_cases same : k = j <;> simp [live, Call.starts?, Call.ends, same, ← ih]
    | stop j =>
      refine (get_stop ..).trans ?_
      by_cases same : k = j <;> simp [live, Call.starts?, Call.ends, same, ← ih]
    | stopAll => exact get_stopAll (after cs) k
    | expire now =>
      rw [get_after_expire, ih]
      by_cases given : answer (.expire now) cs = some k <;>
        simp [live, Call.starts?, Call.ends, given]

theorem exists_get_iff {p : Running → Prop} :
    (∃ r, (after cs).get k = some r ∧ p r) ↔ ∃ i, live k cs = some i ∧ p i.running := by
  rw [get_after]
  cases live k cs <;> simp

theorem forall_get_iff {p : Running → Prop} :
    (∀ r, (after cs).get k = some r → p r) ↔ ∀ i, live k cs = some i → p i.running := by
  rw [get_after]
  cases live k cs <;> simp

/-- A living instance was started by the call that it is numbered for, and no later call has ended
it or started the timer again. -/
theorem started_of_live (h : live k cs = some i) :
    (∃ c before, c :: before <:+ cs ∧ before.length = i.number ∧ c.starts? k = some i.running) ∧
      ∀ c before, c :: before <:+ cs → i.number < before.length →
        c.starts? k = none ∧ c.ends k (answer c before) = false := by
  induction cs with
  | nil => cases h
  | cons c cs ih =>
    rw [live] at h
    cases starts : c.starts? k with
    | some running =>
      rw [starts] at h
      cases h
      refine ⟨⟨c, cs, List.suffix_rfl, rfl, starts⟩, fun c' before suffix less => ?_⟩
      have short := suffix.length_le
      rw [List.length_cons, List.length_cons] at short
      exact absurd (Nat.le_of_succ_le_succ short) (Nat.not_le.2 less)
    | none =>
      rw [starts] at h
      cases ends : c.ends k (answer c cs) with
      | true =>
        rw [ends] at h
        cases h
      | false =>
        rw [ends] at h
        obtain ⟨⟨c', before, suffix, number, started⟩, untouched⟩ := ih h
        refine ⟨⟨c', before, suffix.trans (List.suffix_cons ..), number, started⟩,
          fun c'' before' suffix' less => ?_⟩
        rcases List.suffix_cons_iff.1 suffix' with whole | earlier
        · cases whole
          exact ⟨starts, ends⟩
        · exact untouched c'' before' earlier less

theorem number_of_live (h : live k cs = some i) : i.number < cs.length := by
  obtain ⟨⟨c, before, suffix, number, -⟩, -⟩ := started_of_live h
  have short := suffix.length_le
  rw [List.length_cons] at short
  omega

theorem exists_of_delivered (h : i ∈ delivered k cs) :
    ∃ now before, .expire now :: before <:+ cs ∧ answer (.expire now) before = some k ∧
      live k before = some i := by
  induction cs with
  | nil => cases h
  | cons c cs ih =>
    have earlier (old : i ∈ delivered k cs) : ∃ now before, .expire now :: before <:+ c :: cs ∧
        answer (.expire now) before = some k ∧ live k before = some i := by
      obtain ⟨now, before, suffix, found⟩ := ih old
      exact ⟨now, before, suffix.trans (List.suffix_cons ..), found⟩
    rw [delivered] at h
    split at h
    · rename_i answered
      obtain ⟨now, rfl⟩ := exists_expire_of_answer answered
      rcases List.mem_append.1 h with new | old
      · exact ⟨now, cs, List.suffix_rfl, answered, Option.mem_toList.1 new⟩
      · exact earlier old
    · exact earlier h

/-- What lives has not been handed out. -/
theorem not_delivered_of_live (h : live k cs = some i) : i ∉ delivered k cs := by
  intro old
  obtain ⟨now, before, suffix, answered, lived⟩ := exists_of_delivered old
  have less := number_of_live lived
  have ended := ((started_of_live h).2 _ _ suffix less).2
  rw [answered, Call.ends, beq_self_eq_true] at ended
  cases ended

theorem nodup_delivered (k : Timer) (cs : List Call) : (delivered k cs).Nodup := by
  induction cs with
  | nil => exact .nil
  | cons c cs ih =>
    rw [delivered]
    split
    · cases lives : live k cs with
      | none => exact ih
      | some i => exact List.nodup_cons.2 ⟨not_delivered_of_live lives, ih⟩
    · exact ih

/-! ## What is handed out -/

theorem answer_expire_eq_none_iff {now : Nat} :
    answer (.expire now) cs = none ↔ ∀ k i, live k cs = some i → now < i.deadline := by
  rw [answer_expire, due?_eq_none_iff]
  exact forall_congr' fun k => forall_get_iff

/-- The instance handed out is due, and the first of all that live. -/
theorem answer_expire_eq_some_iff {now : Nat} :
    answer (.expire now) cs = some k ↔
      ∃ i, live k cs = some i ∧ i.deadline ≤ now ∧
        ∀ j other, j ≠ k → live j cs = some other →
          i.deadline < other.deadline ∨ i.deadline = other.deadline ∧ k.rank < j.rank := by
  rw [answer_expire, due?_eq_some_iff]
  constructor
  · rintro ⟨r, get, due, soonest⟩
    rw [get_after, Option.map_eq_some_iff] at get
    obtain ⟨i, lives, rfl⟩ := get
    refine ⟨i, lives, due, fun j other differs lives' => ?_⟩
    have running : (after cs).isRunning j = true := by rw [isRunning, get_after, lives']; rfl
    obtain ⟨_, _, get, get', order⟩ := soonest j differs running
    rw [get_after, lives] at get
    rw [get_after, lives'] at get'
    cases get
    cases get'
    exact order
  · rintro ⟨i, lives, due, soonest⟩
    have get : (after cs).get k = some i.running := by rw [get_after, lives]; rfl
    refine ⟨i.running, get, due, fun j differs running => ?_⟩
    rw [isRunning, get_after, Option.isSome_map] at running
    obtain ⟨other, lives'⟩ := Option.isSome_iff_exists.1 running
    have get' : (after cs).get j = some other.running := by rw [get_after, lives']; rfl
    exact ⟨i.running, other.running, get, get', soonest j other differs lives'⟩

/-- Of two timers that expire together the one with the lower rank comes first. -/
example :
    answer (.expire 10) [.start .transfer 10 0, .restart .maxCycle 10 0] = some .transfer := by
  decide

/-- After any sequence of calls the timers held are the living instances, and the next deadline is
the least of theirs. Asked for an expired timer, the service hands out the first of all living
instances if it is due, and nothing otherwise; it removes what it hands out and nothing else. Asked
until there is none, it hands out all that are due, in the order of their deadlines. No instance is
ever handed out twice, and none that was stopped or replaced before. -/
theorem expiry_in_order (cs : List Call) :
    (∀ k, (after cs).get k = (live k cs).map Instance.running) ∧
    ((after cs).nextDeadline = none ↔ ∀ k, live k cs = none) ∧
    (∀ deadline, (after cs).nextDeadline = some deadline ↔
      (∃ k i, live k cs = some i ∧ i.deadline = deadline) ∧
        ∀ k i, live k cs = some i → deadline ≤ i.deadline) ∧
    (∀ now,
      (answer (.expire now) cs = none ↔ ∀ k i, live k cs = some i → now < i.deadline) ∧
      (∀ k, answer (.expire now) cs = some k ↔
        ∃ i, live k cs = some i ∧ i.deadline ≤ now ∧
          ∀ j other, j ≠ k → live j cs = some other →
            i.deadline < other.deadline ∨ i.deadline = other.deadline ∧ k.rank < j.rank) ∧
      (∀ k, (after (.expire now :: cs)).get k =
        if answer (.expire now) cs = some k then none else (after cs).get k) ∧
      ((after cs).expireAll now).1.Pairwise (after cs).Sooner ∧
      (∀ k, k ∈ ((after cs).expireAll now).1 ↔ ∃ i, live k cs = some i ∧ i.deadline ≤ now) ∧
      ∀ k, ((after cs).expireAll now).2.get k =
        if k ∈ ((after cs).expireAll now).1 then none else (after cs).get k) ∧
    ∀ k, (delivered k cs).Nodup ∧
      ∀ i ∈ delivered k cs, ∃ now before, .expire now :: before <:+ cs ∧
        answer (.expire now) before = some k ∧ i.deadline ≤ now ∧
        (∃ c earlier, c :: earlier <:+ before ∧ earlier.length = i.number ∧
          c.starts? k = some i.running) ∧
        ∀ c earlier, c :: earlier <:+ before → i.number < earlier.length →
          c.starts? k = none ∧ c.ends k (answer c earlier) = false := by
  refine ⟨fun k => get_after k cs, ?_, fun deadline => ?_, fun now => ?_,
    fun k => ⟨nodup_delivered k cs, fun i given => ?_⟩⟩
  · simp [nextDeadline_eq_none_iff, get_after]
  · rw [nextDeadline_eq_some_iff]
    exact and_congr (exists_congr fun k => exists_get_iff) (forall_congr' fun k => forall_get_iff)
  · obtain ⟨order, all, rest⟩ := (after cs).expireAll_spec now
    exact ⟨answer_expire_eq_none_iff, fun k => answer_expire_eq_some_iff,
      get_after_expire now cs, order, fun k => (all k).trans exists_get_iff, rest⟩
  · obtain ⟨now, before, suffix, answered, lives⟩ := exists_of_delivered given
    obtain ⟨_, lives', due, -⟩ := answer_expire_eq_some_iff.1 answered
    cases lives.symm.trans lives'
    obtain ⟨started, untouched⟩ := started_of_live lives
    exact ⟨now, before, suffix, answered, due, started, untouched⟩

end Timers

end Sdci
