import Sdci.Proofs.Exchange

/-! # Which transfer an answer is about

A transceiver reports the end of each transfer it took, in their order, but not which transfer a
report is about. A device takes a report for the answer to the frame in flight. That is right as
long as no report about an earlier frame is still to come.

* `Trace.answering`: the transfer that the next report is about.
* `Trace.Orderly`: each report is about a transfer that awaits one.
* `Trace.carried`: the kinds of the requests that a valid answer confirmed.
* `Trace.CaughtUp`: no report about an earlier frame is still to come.
* `Session.Reach.answers_own_frame_iff`: when a request is confirmed by the answer to its own frame.
-/

namespace Sdci
set_option autoImplicit false

/-! ## Reports of the transceiver -/

namespace Event

/-- The transceiver reports the end of a transfer. -/
def isAnswer : Event → Bool
  | polled (some (.transferComplete _)) => true
  | polled (some (.transferFailed _)) => true
  | _ => false

def confirmed? : Event → Option Service
  | confirmed kind _ _ => some kind
  | _ => none

end Event

namespace Trace

def answers (t : Trace) : Nat := t.countP Event.isAnswer

def answering (t : Trace) : Option Transfer := (transfers t)[answers t]?

def Orderly : Trace → Prop
  | [] => True
  | e :: t => answers (e :: t) ≤ (transfers (e :: t)).length ∧ Orderly t

instance Orderly.decidable : (t : Trace) → Decidable (Orderly t)
  | [] => inferInstanceAs (Decidable True)
  | _ :: t => @instDecidableAnd _ _ (inferInstanceAs (Decidable (_ ≤ _))) (Orderly.decidable t)

/-- Every transfer of an exchange that is over has been reported on. -/
def CaughtUp (t : Trace) : Prop :=
  ∀ i x, (transfers t)[i]? = some x → x.exchange < finished t → i < answers t

theorem Orderly.of_append {es t : Trace} (h : Orderly (es ++ t)) : Orderly t := by
  induction es with
  | nil => exact h
  | cons e es ih => exact ih h.2

theorem answers_bare (t : Trace) : answers (bare t) = answers t :=
  countP_bare (fun e he => by cases e <;> first | rfl | cases he) t

theorem answering_bare (t : Trace) : answering (bare t) = answering t := by
  rw [answering, transfers_bare, answers_bare, answering]

theorem Orderly.bare {t : Trace} (h : Orderly t) : Orderly (bare t) := by
  induction t with
  | nil => exact h
  | cons e t ih =>
    cases he : e.isRemark with
    | true =>
      rw [bare_cons_remark he]
      exact ih h.2
    | false =>
      have same : Trace.bare (e :: t) = e :: Trace.bare t := bare_cons he t
      rw [same]
      refine ⟨?_, ih h.2⟩
      rw [← same, answers_bare, transfers_bare]
      exact h.1

theorem caughtUp_bare (t : Trace) : CaughtUp (bare t) ↔ CaughtUp t := by
  unfold CaughtUp
  rw [transfers_bare, finished_bare, answers_bare]

/-- While a report is to come, it is about the present exchange just when those about the earlier
ones have come. -/
theorem exchange_of_answering {t : Trace} {x : Transfer} (next : answering t = some x) :
    x.exchange = finished t ↔ CaughtUp t := by
  obtain ⟨bound, here⟩ := List.getElem?_eq_some_iff.1 next
  constructor
  · intro present i y there past
    refine Nat.lt_of_not_le fun later => ?_
    obtain ⟨within, rfl⟩ := List.getElem?_eq_some_iff.1 there
    rcases Nat.eq_or_lt_of_le later with same | after
    · subst same
      rw [here] at past
      omega
    · -- A transfer further on belongs to the same exchange or a later one.
      have ordered := List.pairwise_iff_getElem.1 (transfers_ordered t) _ _ bound within after
      rw [here] at ordered
      omega
  · intro caughtUp
    have past : x.exchange ≤ finished t := exchange_le_finished (List.mem_of_getElem? next)
    rcases Nat.eq_or_lt_of_le past with present | earlier
    · exact present
    · exact absurd (caughtUp _ x next earlier) (Nat.lt_irrefl _)

/-! ## Requests confirmed by a valid answer -/

/-- The latest event, remarks aside, is the success of an exchange. -/
def justSucceeded : Trace → Bool
  | .linkEvent _ .transferSucceeded :: _ => true
  | .noted _ :: t => justSucceeded t
  | _ => false

/-- The kinds of the requests that a valid answer confirmed, latest first. -/
def carried : Trace → List Service
  | [] => []
  | e :: t => (if justSucceeded t then e.confirmed?.toList else []) ++ carried t

theorem carried_cons {e : Event} {t : Trace} (h : e.confirmed? = none ∨ justSucceeded t = false) :
    carried (e :: t) = carried t := by
  rcases h with none | quiet
  · simp [carried, none]
  · simp [carried, quiet]

theorem carried_append (es t : Trace) (h : es.filterMap Event.confirmed? = []) :
    carried (es ++ t) = carried t := by
  induction es with
  | nil => rfl
  | cons e es ih =>
    have none := List.filterMap_eq_nil_iff.1 h
    rw [List.cons_append, carried_cons (.inl (none e List.mem_cons_self))]
    exact ih (List.filterMap_eq_nil_iff.2 fun x mem => none x (List.mem_cons_of_mem e mem))

theorem justSucceeded_bare (t : Trace) : justSucceeded (bare t) = justSucceeded t := by
  induction t with
  | nil => rfl
  | cons e t ih =>
    cases he : e.isRemark with
    | true =>
      rw [bare_cons_remark he, ih]
      cases e <;> first | rfl | cases he
    | false =>
      rw [bare_cons he]
      cases e
      case noted => exact ih
      case linkEvent source event => cases event <;> rfl
      all_goals rfl

theorem carried_bare (t : Trace) : carried (bare t) = carried t := by
  induction t with
  | nil => rfl
  | cons e t ih =>
    cases he : e.isRemark with
    | true =>
      have none : e.confirmed? = none := by cases e <;> first | rfl | cases he
      rw [bare_cons_remark he, ih, carried_cons (.inl none)]
    | false => rw [bare_cons he, carried, carried, justSucceeded_bare, ih]

end Trace

open Trace

/-- Confirmations that follow no success are not due to a valid answer. -/
theorem Confirms.carried_append {outcome : Outcome} {ks : List Service} {es t : Trace}
    (h : Confirms outcome ks es) (quiet : justSucceeded t = false) :
    justSucceeded (es ++ t) = false ∧ carried (es ++ t) = carried t := by
  induction h generalizing t with
  | nil => exact ⟨quiet, rfl⟩
  | cons a rest ih =>
    rename_i kind ks es
    have next := ih (t := .confirmed kind outcome a :: t) rfl
    rw [carried_cons (.inr quiet)] at next
    rwa [List.append_assoc]

theorem Settles.carried_append {d u : Device} {es : Trace} (h : Settles d es u) (source : Link)
    (t : Trace) :
    Trace.carried (es ++ .linkEvent source .transferSucceeded :: t) = Trace.carried t ∨
      ∃ kind, d.riding = some kind ∧
        Trace.carried (es ++ .linkEvent source .transferSucceeded :: t) =
          kind :: Trace.carried t := by
  have rest : Trace.carried (.linkEvent source .transferSucceeded :: t) = Trace.carried t :=
    carried_cons (.inl rfl)
  cases h with
  | cyclic none => exact .inl rest
  | stray => exact .inl rest
  | carried a carries ticket => exact .inr ⟨_, carries, congrArg _ rest⟩

theorem Delivers.unconfirmed {data : Octets} {i j : Images} {es : Trace}
    (h : Delivers data i es j) : es.filterMap Event.confirmed? = [] := by
  refine List.filterMap_eq_nil_iff.2 fun e mem => ?_
  obtain ⟨_, rfl⟩ := h.mem mem
  rfl

theorem Signals.unconfirmed {received : Option Control} {i j : Images} {es : Trace}
    (h : Signals received i es j) : es.filterMap Event.confirmed? = [] := by
  refine List.filterMap_eq_nil_iff.2 fun e mem => ?_
  obtain ⟨_, _, rfl⟩ := h.mem mem
  rfl

theorem Serves.unconfirmed {now : Nat} {s t : Slots} {access : Option Access} {es : Trace}
    (h : Serves now s access es t) : es.filterMap Event.confirmed? = [] := by
  refine List.filterMap_eq_nil_iff.2 fun e mem => ?_
  obtain ⟨_, _, answered⟩ := h.mem mem
  cases answered <;> rfl

namespace Device

/-! ## One move -/

/-- What a move tells by a valid answer: nothing, or that the request which rode on the frame in
flight is done. -/
def Credits (p : Phase) (d : Device) (es t : Trace) : Prop :=
  carried (es ++ t) = carried t ∨
    ∃ kind frame fs, p = .poll ∧ d.riding = some kind ∧ carried (es ++ t) = kind :: carried t ∧
      es = fs ++ [.polled (some (.transferComplete frame))]

theorem Move.carried_append {p : Phase} {d u : Device} {es t : Trace} (h : Move p d es u)
    (quiet : justSucceeded t = false) :
    justSucceeded (es ++ t) = false ∧ Credits p d es t := by
  have one {k : Service} {outcome : Outcome} {a : Bool} :
      Trace.carried (.confirmed k outcome a :: t) = Trace.carried t := carried_cons (.inr quiet)
  cases h with
  | grant => exact ⟨rfl, .inl (Trace.carried_append _ t rfl)⟩
  | refuse =>
    refine ⟨rfl, .inl ?_⟩
    exact (carried_cons (.inr rfl)).trans (carried_cons (.inl rfl))
  | clock => exact ⟨rfl, .inl (Trace.carried_append _ t rfl)⟩
  | silence => exact ⟨rfl, .inl (Trace.carried_append _ t rfl)⟩
  | ignore => exact ⟨rfl, .inl (Trace.carried_append _ t rfl)⟩
  | establish link requested lost done =>
    rename_i mode es₁ es₂
    let begun : Trace :=
      [.linkEvent d.link (.modeConfirmed mode), .polled (some (.modeSwitched mode))]
    have failed := lost.carried_append (t := begun ++ t) rfl
    have ended := done.carried_append failed.1
    rw [failed.2, Trace.carried_append begun t rfl] at ended
    rw [Credits, List.append_assoc, List.append_assoc]
    exact ⟨ended.1, .inl ended.2⟩
  | exchange link decode fits settles delivers signals serves =>
    rename_i v mode frame master i₁ i₂ slots es₁ es₂ es₃ es₄
    have upper : (.cycled :: (es₄ ++ (es₃ ++ es₂))).filterMap Event.confirmed? = [] := by
      simp only [List.filterMap_cons, List.filterMap_append, serves.unconfirmed,
        signals.unconfirmed, delivers.unconfirmed, Event.confirmed?]
      rfl
    have polled : Trace.carried (.polled (some (.transferComplete frame)) :: t) =
        Trace.carried t := carried_cons (.inl rfl)
    have settled := settles.carried_append d.link (.polled (some (.transferComplete frame)) :: t)
    rw [polled] at settled
    have whole : .cycled :: (es₄ ++ (es₃ ++ (es₂ ++ (es₁ ++ [.linkEvent d.link .transferSucceeded,
          .polled (some (.transferComplete frame))])))) ++ t =
        (.cycled :: (es₄ ++ (es₃ ++ es₂))) ++ (es₁ ++ .linkEvent d.link .transferSucceeded ::
          .polled (some (.transferComplete frame)) :: t) := by simp
    refine ⟨rfl, ?_⟩
    rw [Credits, whole, Trace.carried_append _ _ upper]
    rcases settled with same | ⟨kind, rides, more⟩
    · exact .inl same
    · refine .inr ⟨kind, frame, .cycled :: (es₄ ++ (es₃ ++ (es₂ ++ (es₁ ++
        [.linkEvent d.link .transferSucceeded])))), rfl, rides, more, by simp⟩
  | retry link mishap left =>
    cases mishap <;> exact ⟨rfl, .inl (Trace.carried_append _ t rfl)⟩
  | exhaust link mishap left failed =>
    rename_i mode cause e es
    have ended := failed.carried_append (t := [.linkEvent (.active mode) .fatalError, .cycled,
      .linkEvent d.link .recoverableError, e] ++ t) rfl
    rw [Credits, List.append_assoc]
    refine ⟨ended.1, .inl (ended.2.trans ?_)⟩
    cases mishap <;> exact Trace.carried_append _ t rfl
  | fault fatal failed =>
    rename_i cause e es
    have ended := failed.carried_append (t := [.linkEvent d.link .fatalError, e] ++ t) rfl
    rw [Credits, List.append_assoc]
    refine ⟨ended.1, .inl (ended.2.trans ?_)⟩
    cases fatal <;> exact Trace.carried_append _ t rfl
  | stale => exact ⟨rfl, .inl (Trace.carried_append _ t rfl)⟩
  | answerMode => exact ⟨rfl, .inl one⟩
  | switch calm idle pending failed =>
    refine ⟨rfl, .inl ?_⟩
    exact (Trace.carried_append [_, _] _ rfl).trans (failed.carried_append quiet).2
  | refuseMode acknowledged calm idle pending failed =>
    refine ⟨rfl, .inl ?_⟩
    refine (carried_cons (.inr rfl)).trans ?_
    exact (carried_cons (.inl rfl)).trans (failed.carried_append quiet).2
  | serve => exact ⟨rfl, .inl one⟩
  | drop => exact ⟨rfl, .inl one⟩
  | launch unhurried link chosen => exact ⟨rfl, .inl (Trace.carried_append _ t rfl)⟩
  | busy => exact ⟨rfl, .inl (Trace.carried_append _ t rfl)⟩

theorem Moves.carried_append {p : Phase} {d u : Device} {es t : Trace} (h : Moves p d es u)
    (other : p ≠ .poll) (quiet : justSucceeded t = false) :
    justSucceeded (es ++ t) = false ∧ Trace.carried (es ++ t) = Trace.carried t := by
  induction h with
  | refl => exact ⟨quiet, rfl⟩
  | tail before last ih =>
    rw [List.append_assoc]
    obtain ⟨next, same | ⟨kind, frame, fs, poll, -⟩⟩ := last.carried_append ih.1
    · exact ⟨next, same.trans ih.2⟩
    · exact absurd poll other

end Device

namespace Session

open Device

variable {σ : Type} [Transceiver σ] [Application σ]

/-! ## One tick -/

/-- A valid answer that confirms a request comes first in its tick, and the request rode on the
frame in flight before. -/
theorem polled_of_carried (s : Session σ) {now : Nat} {kind : Service}
    (credited : (s.tick now).env.trace.carried = kind :: s.env.trace.carried) :
    s.device.riding = some kind ∧ ∃ es frame, (s.tick now).env.trace.bare =
      es ++ .polled (some (.transferComplete frame)) :: .ticked now :: s.env.trace.bare := by
  obtain ⟨-, ⟨es, polled, move⟩, ⟨fs, expired, expiries⟩, ⟨gs, worked, work⟩⟩ := s.performs_tick now
  have entered : (s.enterTick now).env.trace.bare = .ticked now :: s.env.trace.bare :=
    Env.bare_enter rfl
  rw [entered] at polled
  obtain ⟨quiet, credits⟩ := move.carried_append (t := .ticked now :: s.env.trace.bare) rfl
  obtain ⟨quiet', same⟩ := expiries.carried_append nofun quiet
  obtain ⟨-, same'⟩ := work.carried_append nofun quiet'
  have whole : (s.tick now).env.trace.bare =
      gs ++ (fs ++ (es ++ .ticked now :: s.env.trace.bare)) := by rw [worked, expired, polled]
  have before : Trace.carried (.ticked now :: s.env.trace.bare) = s.env.trace.carried := by
    rw [carried_cons (.inl rfl), carried_bare]
  rw [← carried_bare, whole, same', same] at credited
  rcases credits with none | ⟨k, frame, es', -, rides, more, rfl⟩
  · rw [none, before] at credited
    exact absurd credited.symm (List.cons_ne_self _ _)
  · rw [more, before] at credited
    obtain rfl := (List.cons.inj credited).1
    refine ⟨rides, gs ++ (fs ++ es'), frame, ?_⟩
    rw [whole]
    simp

/-- A request that a valid answer confirms is confirmed by the answer to its own frame just when all
transfers of earlier frames have been reported on before. -/
theorem Reach.answers_own_frame_iff {s : Session σ} (h : Reach s) {now : Nat} {kind : Service}
    (orderly : (s.tick now).env.trace.Orderly)
    (credited : (s.tick now).env.trace.carried = kind :: s.env.trace.carried) :
    ∃ out r, s.device.inFlight = some out ∧ s.device.slots.request? kind = some r ∧
      out.frame = s.device.frameOf r ∧
      (s.env.trace.answering = some ⟨s.env.trace.finished, out.frame.encode⟩ ↔
        s.env.trace.CaughtUp) := by
  obtain ⟨c, -, run⟩ := h.run
  obtain ⟨rides, es, frame, trace⟩ := s.polled_of_carried credited
  obtain ⟨out, some, carries⟩ := Option.bind_eq_some_iff.1 rides
  obtain ⟨r, request, same⟩ := run.carries out kind some carries
  refine ⟨out, r, some, request, same, ?_⟩
  have awaited := orderly.bare
  rw [trace] at awaited
  have bound : answers s.env.trace.bare < (transfers s.env.trace.bare).length := by
    have answered := awaited.of_append.1
    rw [transfers_cons_of_not_taken rfl, transfers_cons_of_not_taken rfl] at answered
    have counted : answers (.polled (Option.some (.transferComplete frame)) :: .ticked now ::
        s.env.trace.bare) = answers s.env.trace.bare + 1 := by
      simp [answers, List.countP_cons, Event.isAnswer]
    omega
  have next : answering s.env.trace.bare = Option.some (transfers s.env.trace.bare)[answers _] :=
    List.getElem?_eq_getElem bound
  rw [← answering_bare, ← finished_bare, ← caughtUp_bare, ← exchange_of_answering next, next]
  constructor
  · intro own
    rw [Option.some.inj own]
  · -- All transfers of the present exchange sent the frame in flight.
    intro present
    have sent := run.tracks.current out some _ (List.getElem_mem bound) present
    rw [← present, ← sent]

theorem answers_own_frame_exchanging :
    Reach Bench.exchanging ∧ (Bench.exchanging.tick 4000).env.trace.Orderly ∧
      (Bench.exchanging.tick 4000).env.trace.carried =
        .input :: Bench.exchanging.env.trace.carried ∧
      Bench.exchanging.env.trace.CaughtUp := by
  have reach := Bench.reach_exchanging
  have orderly : (Bench.exchanging.tick 4000).env.trace.Orderly := by decide +kernel
  have credited : (Bench.exchanging.tick 4000).env.trace.carried =
      .input :: Bench.exchanging.env.trace.carried := by decide +kernel
  obtain ⟨out, r, frame, -, -, own⟩ := reach.answers_own_frame_iff orderly credited
  have sent : Bench.exchanging.env.trace.answering = Bench.exchanging.device.inFlight.map fun out =>
      ⟨Bench.exchanging.env.trace.finished, out.frame.encode⟩ := by decide +kernel
  rw [frame] at sent
  exact ⟨reach, orderly, credited, own.1 sent⟩

end Session

/-! ## A late report -/

namespace Bench

open Session

/-- The transceiver has the answer of the master to report. -/
def answered (s : Session Bench) : Session Bench :=
  s.mapHost fun b => { b with wire := b.wire.push (.transferComplete [0x00, 0x2D]) }

/-- A device whose first frame carries an event. Nothing was reported before the timer expired, so
the frame is on the line a second time. -/
def resent : Session Bench :=
  let mute := fresh.mapHost fun b => { b with wire := { b.wire with reply := false } }
  ((((mute.setMode .com1).2.tick 1000).sendEvent 0x1234).2.tick 2000).tick 12000

/-- The same device after the report on the first transfer. The next frame carries input data, and
the report on the second transfer has come. -/
def overtaken : Session Bench := answered ((answered (resent.setInput [0xAA]).2).tick 13000)

theorem reach_answered {s : Session Bench} (h : Reach s) : Reach (answered s) :=
  h.step (.mapHost ..)

theorem reach_resent : Reach resent :=
  (((((reach_fresh.step (.mapHost ..)).submit ⟨.setMode, .com1⟩ nofun).tick 1000).submit
    ⟨.event, 0x1234⟩ nofun).tick 2000).tick 12000

theorem reach_overtaken : Reach overtaken :=
  reach_answered ((reach_answered (reach_resent.submit ⟨.input, [0xAA]⟩ nofun)).tick 13000)

/-- The report on the frame of the event confirms the input data. -/
theorem late_answer_confirms_other_frame :
    Reach overtaken ∧ (overtaken.tick 14000).env.trace.Orderly ∧
      (overtaken.tick 14000).env.trace.carried = .input :: overtaken.env.trace.carried ∧
      overtaken.env.trace.answering.map Transfer.frame = some [0x48, 0x12, 0x34, 0x00] ∧
      overtaken.device.inFlight.map (·.frame.encode) = some [0x01, 0xAA, 0x33] ∧
      ¬∃ out, overtaken.device.inFlight = some out ∧
        overtaken.env.trace.answering.map Transfer.frame = some out.frame.encode := by
  have answered : overtaken.env.trace.answering.map Transfer.frame =
      some [0x48, 0x12, 0x34, 0x00] := by decide +kernel
  have own : overtaken.device.inFlight.map (·.frame.encode) = some [0x01, 0xAA, 0x33] := by
    decide +kernel
  refine ⟨reach_overtaken, by decide +kernel, by decide +kernel, answered, own, ?_⟩
  rintro ⟨out, frame, same⟩
  rw [frame] at own
  rw [answered] at same
  exact absurd (same.trans own) (by decide)

end Bench

end Sdci
