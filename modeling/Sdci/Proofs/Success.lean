import Sdci.Proofs.KeptFrame

/-! # What a success stands for

A request is confirmed with success only if something has come of it: the device knew the answer,
the transceiver runs in the mode asked for, or the frame of the request was sent and a valid answer
came.

* `Device.Earned`: how a request comes to be confirmed with success, in terms of the device that the
  tick found and of the history up to the confirmation.
* `Device.Move.earned`: the successes that one move confirms.
* `Session.Reach.success_earned`: those of a whole step, and what a valid answer completes.
-/

namespace Sdci
set_option autoImplicit false

/-! ## Earned successes -/

inductive Device.Earned (d : Device) (before : Trace) : Service → Prop
  | mode : Earned d before .getMode
  /-- The mode that the request asks for has been reported. -/
  | switched {target : Mode} (request : d.slots.request? .setMode = some ⟨.setMode, target⟩)
      (link : d.link = .switching target)
      (report : before.indication = some (.modeSwitched target)) : Earned d before .setMode
  /-- Without a link the parameters are the device's own business. -/
  | here {kind : Service} (about : kind ∈ Service.parameters) (link : before.link = .inactive) :
      Earned d before kind
  /-- A valid answer has been reported, and the frame of the request was sent last. -/
  | answered {mode : Mode} {frame : Octets} {master : MasterFrame} {request : Request}
      (link : d.link = .transferring mode)
      (report : before.indication = some (.transferComplete frame))
      (decode : MasterFrame.decode frame = .ok master)
      (fits : master.output.length ≤ d.images.output.maxLength)
      (ticket : d.slots.request? request.kind = some request)
      (sent : before.sent = some (d.frameOf request).encode) : Earned d before request.kind

theorem Device.Earned.of_clock {d : Device} {now : Nat} {before : Trace} {k : Service}
    (h : Device.Earned { d with lastTick := now } before k) : d.Earned before k := by
  cases h with
  | mode => exact .mode
  | switched request link report => exact .switched request link report
  | here about link => exact .here about link
  | answered link report decode fits ticket sent =>
    exact .answered link report decode fits ticket sent

/-! ## Events that are successes -/

def Event.isSuccess : Event → Bool
  | confirmed _ (.ok _) _ => true
  | _ => false

/-- A history without a success. -/
def Trace.Barren (es : Trace) : Prop := ∀ e ∈ es, e.isSuccess = false

namespace Trace

@[simp] theorem barren_nil : Barren [] := List.forall_mem_nil _

@[simp] theorem barren_cons {e : Event} {es : Trace} :
    Barren (e :: es) ↔ e.isSuccess = false ∧ Barren es := List.forall_mem_cons

@[simp] theorem barren_append {es fs : Trace} : Barren (es ++ fs) ↔ Barren es ∧ Barren fs :=
  List.forall_mem_append

end Trace

theorem Confirms.barren {cause : Failure} {ks : List Service} {es : Trace}
    (h : Confirms (.error cause) ks es) : es.Barren := by
  intro e mem
  obtain ⟨_, _, rfl⟩ := h.mem mem
  rfl

namespace Trace

variable {es fs m : Trace} {j k : Service} {o : Outcome} {x : Option Octets} {a b : Bool}

theorem suffix_of_barren (barren : es.Barren) (h : .confirmed k (.ok x) a :: m <:+ es ++ fs) :
    .confirmed k (.ok x) a :: m <:+ fs := by
  rcases suffix_append h with earlier | ⟨_, -, within⟩
  · exact earlier
  · have quiet := barren _ (within.subset List.mem_cons_self)
    cases quiet

/-- In a barren history the one success is the latest event. -/
theorem eq_of_barren (barren : fs.Barren)
    (h : .confirmed k (.ok x) a :: m <:+ .confirmed j o b :: fs) : k = j ∧ o = .ok x ∧ m = fs := by
  rcases List.suffix_cons_iff.1 h with whole | earlier
  · obtain ⟨same, rest⟩ := List.cons.inj whole
    obtain ⟨kind, outcome, -⟩ := Event.confirmed.inj same
    exact ⟨kind, outcome.symm, rest⟩
  · have quiet := barren _ (earlier.subset List.mem_cons_self)
    cases quiet

end Trace

theorem Confirms.single {outcome : Outcome} {k : Service} {es : Trace}
    (h : Confirms outcome [k] es) : ∃ a, es = [.confirmed k outcome a] := by
  cases h with
  | cons a rest =>
    cases rest
    exact ⟨a, rfl⟩

namespace Device

/-! ## The request for a mode -/

/-- A mode switch under way is the one that was asked for. -/
def Heeds (d : Device) : Prop :=
  ∀ target, d.link = .switching target → d.slots.request? .setMode = some ⟨.setMode, target⟩

theorem heeds_of_steady {d : Device} (h : d.link.isSwitching = false) : d.Heeds := by
  intro target link
  rw [link] at h
  cases h

theorem request?_survivors (d : Device) :
    d.survivors.request? .setMode = d.slots.request? .setMode := by
  unfold survivors
  split
  · rw [Slots.request?, Slots.get_takeWhere]
    rfl
  · rfl

theorem Move.heeds {p : Phase} {d u : Device} {es : Trace} (h : Move p d es u)
    (before : d.Heeds) : u.Heeds := by
  cases h with
  | grant own granted =>
    intro target link
    have request := before target link
    have free := isOpen_of_admits granted
    rename_i r
    have other : Service.setMode ≠ r.kind := by
      intro same
      rw [← same, Slots.isOpen_of_request? request] at free
      cases free
    exact (Slots.request?_place_ne _ other _).trans request
  | establish link requested lost done =>
    rename_i mode es₁ es₂
    refine heeds_of_steady ?_
    unfold established
    cases mode.active <;> rfl
  | exchange link decode fits settles =>
    refine heeds_of_steady ?_
    rw [settles.eq]
    rfl
  | retry => exact heeds_of_steady rfl
  | exhaust => exact heeds_of_steady rfl
  | fault => exact heeds_of_steady rfl
  | answerMode =>
    intro target link
    have other : Service.setMode ≠ .getMode := nofun
    exact (Slots.request?_close_ne _ other).trans (before target link)
  | switch quiet idle pending =>
    intro target link
    cases link
    change (d.survivors.requeue.mark .setMode true).request? .setMode = _
    rw [Slots.request?_mark, Slots.request?_requeue, request?_survivors]
    exact Slots.request?_of_pending pending
  | refuseMode acknowledged quiet idle =>
    refine heeds_of_steady ?_
    change d.link.isSwitching = false
    cases link : d.link <;> rw [link] at idle <;> first | rfl | cases idle
  | serve acknowledged unhurried link =>
    intro target switching
    rw [show d.link = _ from switching] at link
    cases link
  | drop acknowledged unhurried link =>
    intro target switching
    rw [show d.link = _ from switching] at link
    cases link
  | launch => exact heeds_of_steady rfl
  | _ => exact before

theorem Run.heeds {c : Config} {d : Device} {t : Trace} (h : Run c d t) : d.Heeds := by
  induction h with
  | start => exact heeds_of_steady rfl
  | move before last ih => exact last.heeds ih

/-! ## One move -/

theorem about_of_serve {s : Store} {r : Request} {x : Option Octets}
    (h : (s.serve r).1 = .ok x) : r.kind ∈ Service.parameters := by
  obtain ⟨kind, content⟩ := r
  cases kind with
  | setIdent | getIdent | setCom | getCom => simp [Service.parameters]
  | _ => cases h

open Trace in
theorem Move.earned {c : Config} {p : Phase} {d u : Device} {es t m : Trace} {k : Service}
    {x : Option Octets} {a : Bool} (run : Run c d t) (h : Move p d es u)
    (latest : .confirmed k (.ok x) a :: m <:+ es) :
    ∀ v, (p = .poll → v = d) → v.Earned (m ++ t) k := by
  intro v same
  -- Only four moves confirm a success, and each of them at one place.
  have fruitful : ¬es.Barren := by
    intro barren
    have quiet := barren _ (latest.subset List.mem_cons_self)
    cases quiet
  cases h with
  | answerMode acknowledged quiet pending =>
    obtain ⟨rfl, -, -⟩ := eq_of_barren barren_nil latest
    exact .mode
  | serve acknowledged unhurried link next =>
    obtain ⟨rfl, outcome, rfl⟩ := eq_of_barren barren_nil latest
    have about := about_of_serve outcome
    have link : t.link = .inactive := run.told.link.trans link
    exact .here about link
  | establish link requested lost done =>
    rename_i mode es₁ es₂
    obtain rfl := same rfl
    have request := run.heeds mode link
    rw [Slots.among_single, if_pos (Slots.isOpen_of_request? request)] at done
    obtain ⟨acknowledged, rfl⟩ := done.single
    rw [List.append_assoc, List.singleton_append] at latest
    obtain ⟨rfl, -, rfl⟩ :=
      eq_of_barren (barren_append.2 ⟨lost.barren, by simp [Event.isSuccess]⟩) latest
    refine .switched request link ?_
    rw [List.append_assoc, lost.upcalls.indication]
    rfl
  | exchange link decode fits settles delivers signals serves =>
    rename_i w mode frame master i₁ i₂ slots es₁ es₂ es₃ es₄
    obtain rfl := same rfl
    have begun : Trace.Barren [.linkEvent v.link .transferSucceeded,
        .polled (some (.transferComplete frame))] := by simp [Event.isSuccess]
    have handed : Trace.Barren (.cycled :: (es₄ ++ (es₃ ++ es₂))) :=
      Trace.lacks_of_unconfirmed (unconfirmed_handed delivers signals serves) fun e none => by
        cases e <;> first | rfl | cases none
    have latest := suffix_of_barren handed (by simpa using latest)
    cases settles with
    | cyclic => cases begun _ (latest.subset List.mem_cons_self)
    | stray => cases begun _ (latest.subset List.mem_cons_self)
    | carried acknowledged rides ticket =>
      obtain ⟨rfl, -, rfl⟩ := eq_of_barren begun latest
      obtain ⟨r, found, sent⟩ := run.sent_rider rides
      obtain rfl := Slots.kind_of_request? found
      exact .answered link rfl decode fits found sent
  | retry link mishap left => cases mishap <;> exact absurd (by simp [Event.isSuccess]) fruitful
  | exhaust link mishap left failed =>
    cases mishap <;> exact absurd (by simp [Event.isSuccess, failed.barren]) fruitful
  | fault fatal failed =>
    cases fatal <;> exact absurd (by simp [Event.isSuccess, failed.barren]) fruitful
  | switch quiet idle pending failed =>
    exact absurd (by simp [Event.isSuccess, failed.barren]) fruitful
  | refuseMode acknowledged quiet idle pending failed =>
    exact absurd (by simp [Event.isSuccess, failed.barren]) fruitful
  | _ => exact absurd (by simp [Event.isSuccess]) fruitful

/-- Outside the phase of indications no success depends on the device that the tick found. -/
theorem Moves.earned {c : Config} {p : Phase} {d u : Device} {es t m : Trace} {k : Service}
    {x : Option Octets} {a : Bool} (run : Run c d t) (h : Moves p d es u) (other : p ≠ .poll)
    (latest : .confirmed k (.ok x) a :: m <:+ es) (v : Device) : v.Earned (m ++ t) k := by
  induction h with
  | refl => cases List.suffix_nil.1 latest
  | tail before last ih =>
    rename_i u v' es fs
    rcases Trace.suffix_append latest with earlier | ⟨m, rfl, within⟩
    · exact ih earlier
    · rw [List.append_assoc]
      exact last.earned (run.moves before) within v fun same => absurd same other

/-! ## What is completed -/

/-- A request whose frame is current is completed, but for the answer to an access, which may be a
failure. -/
theorem Builds.completed {d u : Device} {out : InFlight} {r : Request} (builds : d.Builds out)
    (rides : out.carries = some r.kind) (ticket : d.slots.request? r.kind = some r)
    (size : u.images.input.maxLength = d.images.input.maxLength) (own : r.kind ≠ .access) :
    ∃ x, (u.completion r).1 = .ok x := by
  cases builds with
  | cyclic => cases rides
  | input found fits =>
    rw [← Option.some.inj rides, found] at ticket
    obtain rfl := Option.some.inj ticket
    rw [← size] at fits
    have stored := Image.store_eq_ok_iff.2 ⟨fits, rfl⟩
    exact ⟨none, congrArg Prod.fst (completion_input_ok stored)⟩
  | service mem found =>
    rename_i request
    rw [← Option.some.inj rides, found] at ticket
    obtain rfl := Option.some.inj ticket
    obtain ⟨kind, content⟩ := request
    cases kind with
    | setMode | getMode | input => contradiction
    | access => exact absurd rfl own
    | _ => exact ⟨_, rfl⟩

end Device

namespace Session

open Device Trace

variable {σ : Type}

/-! ## Phases and steps -/

theorem Performs.suffix {p : Phase} {s t : Session σ} (h : Performs p s t) :
    s.env.trace.bare <:+ t.env.trace.bare := by
  obtain ⟨es, trace, -⟩ := h
  exact ⟨es, trace.symm⟩

variable {c : Config} {s t : Session σ} {b : Trace} {k : Service} {x : Option Octets} {a : Bool}

theorem Performs.earned {p : Phase} (h : Performs p s t) (run : Run c s.device s.env.trace.bare)
    (other : p ≠ .poll) (latest : .confirmed k (.ok x) a :: b <:+ t.env.trace.bare) (v : Device) :
    .confirmed k (.ok x) a :: b <:+ s.env.trace.bare ∨ v.Earned b k := by
  obtain ⟨es, trace, moves⟩ := h
  rw [trace] at latest
  rcases suffix_append latest with earlier | ⟨m, rfl, within⟩
  · exact .inl earlier
  · exact .inr (moves.earned run other within v)

theorem Makes.earned (h : Makes .poll s t) (run : Run c s.device s.env.trace.bare)
    (latest : .confirmed k (.ok x) a :: b <:+ t.env.trace.bare) :
    .confirmed k (.ok x) a :: b <:+ s.env.trace.bare ∨ s.device.Earned b k := by
  obtain ⟨es, trace, move⟩ := h
  rw [trace] at latest
  rcases suffix_append latest with earlier | ⟨m, rfl, within⟩
  · exact .inl earlier
  · exact .inr (move.earned run within s.device fun _ => rfl)

variable [Transceiver σ] [Application σ]

theorem Step.suffix (h : Step s t) : s.env.trace.bare <:+ t.env.trace.bare := by
  cases h with
  | tick now =>
    obtain ⟨entered, polled, expired, worked⟩ := s.performs_tick now
    exact entered.performs.suffix.trans
      (polled.performs.suffix.trans (expired.suffix.trans worked.suffix))
  | submit r own => exact (s.makes_submit own).performs.suffix
  | mapHost f => exact List.suffix_rfl

theorem Step.earned (h : Step s t) (run : Run c s.device s.env.trace.bare)
    (latest : .confirmed k (.ok x) a :: b <:+ t.env.trace.bare) :
    .confirmed k (.ok x) a :: b <:+ s.env.trace.bare ∨ s.device.Earned b k := by
  cases h with
  | tick now =>
    obtain ⟨entered, polled, expired, worked⟩ := s.performs_tick now
    have run₁ := entered.performs.run run
    have run₂ := polled.performs.run run₁
    have run₃ := expired.run run₂
    rcases worked.earned run₃ nofun latest s.device with latest | earned
    · rcases expired.earned run₂ nofun latest s.device with latest | earned
      · rcases polled.earned run₁ latest with latest | earned
        · exact entered.performs.earned run nofun latest s.device
        · exact .inr (.of_clock earned)
      · exact .inr earned
    · exact .inr earned
  | submit r own => exact (s.makes_submit own).performs.earned run nofun latest s.device
  | mapHost f => exact .inl latest

theorem Step.completions (h : Step s t) (reach : Reach s) :
    t.env.trace.completions = s.env.trace.completions ∨
      ∃ kind outcome, t.env.trace.completions = (kind, outcome) :: s.env.trace.completions ∧
        (kind ≠ .access → ∃ octets, outcome = .ok octets) := by
  obtain ⟨_, -, run⟩ := reach.run
  cases h with
  | tick now =>
    rcases reach.completions_tick now with same | ⟨mode, output, _, link, ⟨rides, ticket, -⟩, one⟩
    · exact .inl same
    · refine .inr ⟨_, _, one, fun own => ?_⟩
      obtain ⟨out, kept, carries⟩ := Option.bind_eq_some_iff.1 rides
      obtain rfl := Slots.kind_of_request? ticket
      exact (run.builds kept).completed carries ticket rfl own
  | submit r own =>
    have idle := run.not_completing
    rw [(completions_bare _).1] at idle
    exact .inl ((s.makes_submit own).performs.completes_nothing nofun idle).1.2
  | mapHost f => exact .inl rfl

/-- In every run each success that a step confirms has been earned. A step completes one request at
most by a valid answer, and never as a failure, unless it is the answer to an access. -/
theorem Reach.success_earned (h : Reach s) (next : Step s t) :
    (∃ new, t.env.trace.bare = new ++ s.env.trace.bare ∧
      ∀ mid kind octets acknowledged, .confirmed kind (.ok octets) acknowledged :: mid <:+ new →
        s.device.Earned (mid ++ s.env.trace.bare) kind) ∧
    ∃ done, t.env.trace.completions = done ++ s.env.trace.completions ∧ done.length ≤ 1 ∧
      ∀ kind outcome, (kind, outcome) ∈ done → kind ≠ .access → ∃ octets, outcome = .ok octets := by
  obtain ⟨c, -, run⟩ := h.run
  constructor
  · obtain ⟨new, trace⟩ := next.suffix
    refine ⟨new, trace.symm, fun mid kind octets acknowledged latest => ?_⟩
    have latest : .confirmed kind (.ok octets) acknowledged :: (mid ++ s.env.trace.bare) <:+
        t.env.trace.bare := by
      obtain ⟨later, rfl⟩ := latest
      exact ⟨later, by rw [← trace, List.append_assoc]; rfl⟩
    rcases next.earned run latest with earlier | earned
    · have long := earlier.length_le
      simp only [List.length_cons, List.length_append] at long
      omega
    · exact earned
  · rcases next.completions h with same | ⟨kind, outcome, one, success⟩
    · exact ⟨[], same, Nat.zero_le 1, fun _ _ mem => absurd mem List.not_mem_nil⟩
    · refine ⟨[(kind, outcome)], one, Nat.le_refl 1, fun _ _ mem own => ?_⟩
      obtain ⟨rfl, rfl⟩ := Prod.mk.inj (List.mem_singleton.1 mem)
      exact success own

theorem success_earned_asked :
    Reach Bench.asked ∧ ∃ before octets acknowledged,
      .confirmed .getIdent (.ok octets) acknowledged :: before <:+
        (Bench.asked.tick 4000).env.trace.bare ∧
      Bench.asked.device.Earned before .getIdent := by
  have reach := Bench.reach_asked
  have kinds : (Bench.asked.tick 4000).env.trace.bare.confirmations.map Prod.fst =
      .getIdent :: Bench.asked.env.trace.bare.confirmations.map Prod.fst := by decide +kernel
  have more : (Bench.asked.tick 4000).env.trace.bare.countP Event.isSuccess =
      1 + Bench.asked.env.trace.bare.countP Event.isSuccess := by decide +kernel
  obtain ⟨⟨new, trace, earned⟩, -⟩ := reach.success_earned (.tick Bench.asked 4000)
  rw [trace, confirmations, List.filterMap_append, List.map_append] at kinds
  replace kinds := List.append_cancel_right (kinds.trans (List.singleton_append ..).symm)
  rw [trace, List.countP_append] at more
  obtain ⟨e, mem, success⟩ := List.countP_pos_iff.1 (by omega : 0 < new.countP Event.isSuccess)
  obtain ⟨later, mid, rfl⟩ := List.append_of_mem mem
  cases e
  case confirmed kind outcome acknowledged =>
    cases outcome with
    | error => cases success
    | ok octets =>
      have counted : (kind, .ok octets) ∈ List.filterMap Event.confirmation? _ :=
        List.mem_filterMap.2 ⟨_, mem, rfl⟩
      have own := List.mem_map_of_mem (f := Prod.fst) counted
      rw [kinds] at own
      obtain rfl := List.mem_singleton.1 own
      refine ⟨reach, mid ++ Bench.asked.env.trace.bare, octets, acknowledged, ?_, ?_⟩
      · exact ⟨later, by rw [trace, List.append_assoc]; rfl⟩
      · exact earned mid .getIdent octets acknowledged ⟨later, rfl⟩
  all_goals cases success

end Session

end Sdci
