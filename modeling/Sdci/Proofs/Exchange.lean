import Sdci.Proofs.InFlight

/-! # Exchanges and their transfers

An exchange is all that a device does to get one frame answered. It is over with a valid answer, a
fault or a new mode, and until then each transfer is another attempt with the same frame. Exchanges
are numbered by how many were over before them.

* `Trace.transfers`: what the transceiver took, each transfer with the number of its exchange.
* `Device.Tracks`: the transfers of the present exchange all sent the frame in flight.
* `Device.frameOf`: the frame that carries a request.
* `Device.Carries`: the frame in flight is the frame of the request that rides on it.
-/

namespace Sdci
set_option autoImplicit false

/-! ## Numbered transfers -/

def Link.Event.ends : Link.Event → Bool
  | transferSucceeded => true
  | fatalError => true
  | modeSetAccepted _ => true
  | _ => false

namespace Event

def endsExchange : Event → Bool
  | linkEvent _ e => e.ends
  | _ => false

def taken? : Event → Option Octets
  | transferred frame true => some frame
  | _ => none

end Event

structure Transfer where
  /-- How many exchanges were over before. -/
  exchange : Nat
  frame : Octets
  deriving DecidableEq

namespace Trace

def finished (t : Trace) : Nat := t.countP Event.endsExchange

/-- The transfers that the transceiver took, earliest first. -/
def transfers : Trace → List Transfer
  | [] => []
  | e :: t => transfers t ++ (e.taken?.map (Transfer.mk (finished t))).toList

theorem finished_append (es t : Trace) : finished (es ++ t) = finished es + finished t :=
  List.countP_append

theorem finished_le_cons (e : Event) (t : Trace) : finished t ≤ finished (e :: t) := by
  unfold finished
  rw [List.countP_cons]
  omega

theorem transfers_cons_of_not_taken {e : Event} (h : e.taken? = none) (t : Trace) :
    transfers (e :: t) = transfers t := by
  simp [transfers, h]

theorem transfers_append {es : Trace} (h : es.filterMap Event.taken? = []) (t : Trace) :
    transfers (es ++ t) = transfers t := by
  induction es with
  | nil => rfl
  | cons e es ih =>
    have none := List.filterMap_eq_nil_iff.1 h
    rw [List.cons_append, transfers_cons_of_not_taken (none e List.mem_cons_self)]
    exact ih (List.filterMap_eq_nil_iff.2 fun x mem => none x (List.mem_cons_of_mem e mem))

/-- No transfer belongs to an exchange to come. -/
theorem exchange_le_finished {t : Trace} {x : Transfer} (h : x ∈ transfers t) :
    x.exchange ≤ finished t := by
  induction t with
  | nil => cases h
  | cons e t ih =>
    refine Nat.le_trans ?_ (finished_le_cons e t)
    rcases List.mem_append.1 h with earlier | last
    · exact ih earlier
    · obtain ⟨frame, -, rfl⟩ := Option.map_eq_some_iff.1 (Option.mem_toList.1 last)
      exact Nat.le_refl _

/-- The transfers of one exchange come after those of the exchanges before it. -/
theorem transfers_ordered (t : Trace) :
    (transfers t).Pairwise fun x y => x.exchange ≤ y.exchange := by
  induction t with
  | nil => exact .nil
  | cons e t ih =>
    refine List.pairwise_append.2 ⟨ih, ?_, fun x earlier y last => ?_⟩
    · cases e.taken? with
      | none => exact .nil
      | some frame => exact List.pairwise_singleton ..
    · obtain ⟨frame, -, rfl⟩ := Option.map_eq_some_iff.1 (Option.mem_toList.1 last)
      exact exchange_le_finished earlier

/-! ## Without remarks -/

theorem finished_bare (t : Trace) : finished (bare t) = finished t :=
  countP_bare (fun e he => by cases e <;> first | rfl | cases he) t

theorem transfers_bare (t : Trace) : transfers (bare t) = transfers t := by
  induction t with
  | nil => rfl
  | cons e t ih =>
    cases he : e.isRemark with
    | true =>
      have none : e.taken? = none := by cases e <;> first | rfl | cases he
      rw [bare_cons_remark he, transfers_cons_of_not_taken none, ih]
    | false => rw [bare_cons he, transfers, transfers, ih, finished_bare]

/-! ## Calls of the application -/

theorem Upcalls.taken {es : Trace} (h : es.Upcalls) : es.filterMap Event.taken? = [] := by
  refine List.filterMap_eq_nil_iff.2 fun e mem => ?_
  have upcall := h e mem
  cases e <;> first | rfl | cases upcall

theorem Upcalls.finished {es : Trace} (h : es.Upcalls) : finished es = 0 := by
  refine List.countP_eq_zero.2 fun e mem => ?_
  have upcall := h e mem
  cases e <;> first | exact Bool.false_ne_true | cases upcall

end Trace

open Trace

namespace Device

/-! ## The transfers of the present exchange -/

structure Tracks (d : Device) (t : Trace) : Prop where
  /-- Without a frame in flight no transfer of the present exchange has been made. -/
  idle : d.inFlight = none → ∀ x ∈ transfers t, x.exchange < finished t
  current : ∀ out, d.inFlight = some out →
    ∀ x ∈ transfers t, x.exchange = finished t → x.frame = out.frame.encode

namespace Tracks

variable {d u : Device} {es t : Trace}

/-- Nothing is sent, and the exchange goes on. -/
theorem goesOn (h : d.Tracks t) (taken : es.filterMap Event.taken? = []) (more : finished es = 0)
    (frame : u.inFlight = d.inFlight) : u.Tracks (es ++ t) := by
  constructor
  · rw [frame, transfers_append taken, finished_append, more, Nat.zero_add]
    exact h.idle
  · rw [frame, transfers_append taken, finished_append, more, Nat.zero_add]
    exact h.current

/-- Nothing is sent, and the exchange is over. -/
theorem ends (taken : es.filterMap Event.taken? = []) (more : 0 < finished es)
    (frame : u.inFlight = none) : u.Tracks (es ++ t) := by
  constructor
  · intro _ x mem
    rw [transfers_append taken] at mem
    have past := exchange_le_finished mem
    rw [finished_append]
    omega
  · intro out other
    rw [frame] at other
    cases other

/-- A frame is sent: the one in flight, or the first of a new exchange. -/
theorem sends (h : d.Tracks t) {mode : Mode} {out : InFlight} {link : Link}
    (chosen : d.choose = .again out ∨ d.choose = .fresh out) :
    (d.launched mode out).Tracks
      (.linkEvent link .transferAccepted :: .transferred out.frame.encode true :: t) := by
  have sent : transfers (.linkEvent link .transferAccepted ::
      .transferred out.frame.encode true :: t) =
      transfers t ++ [⟨finished t, out.frame.encode⟩] := by
    rw [transfers_cons_of_not_taken rfl]
    rfl
  have same : finished (.linkEvent link .transferAccepted ::
      .transferred out.frame.encode true :: t) = finished t := rfl
  refine ⟨nofun, fun other frame x mem present => ?_⟩
  cases frame
  rw [same] at present
  rw [sent] at mem
  rcases List.mem_append.1 mem with earlier | last
  · -- A kept frame is the one sent before; ahead of a new one, this exchange has sent nothing.
    rcases chosen with again | fresh
    · exact h.current out (choose_again again) x earlier present
    · have past := h.idle (choose_fresh fresh).1 x earlier
      omega
  · rw [List.mem_singleton.1 last]

end Tracks

theorem Move.tracks {p : Phase} {d u : Device} {es t : Trace} (h : Move p d es u)
    (before : d.Tracks t) : u.Tracks (es ++ t) := by
  cases h with
  | grant => exact before.goesOn rfl rfl rfl
  | refuse => exact before.goesOn rfl rfl rfl
  | clock => exact before.goesOn rfl rfl rfl
  | silence => exact before.goesOn rfl rfl rfl
  | ignore => exact before.goesOn rfl rfl rfl
  | establish link requested lost done =>
    refine before.goesOn ?_ ?_ rfl
    · rw [List.filterMap_append, List.filterMap_append, lost.upcalls.taken, done.upcalls.taken]
      rfl
    · rw [finished_append, finished_append, lost.upcalls.finished, done.upcalls.finished]
      rfl
  | exchange link decode fits settles delivers signals serves =>
    refine .ends ?_ ?_ ?_
    · simp only [List.filterMap_cons, List.filterMap_append, settles.upcalls.taken,
        delivers.upcalls.taken, signals.upcalls.taken, serves.upcalls.taken, Event.taken?]
      rfl
    · exact List.countP_pos_iff.2 ⟨.linkEvent d.link .transferSucceeded, by simp, rfl⟩
    · rw [settles.eq]
  | retry link mishap left => cases mishap <;> exact before.goesOn rfl rfl rfl
  | exhaust link mishap left failed =>
    rename_i mode cause e es
    refine .ends ?_ ?_ rfl
    · rw [List.filterMap_append, failed.upcalls.taken]
      cases mishap <;> rfl
    · exact List.countP_pos_iff.2 ⟨.linkEvent (.active mode) .fatalError, by simp, rfl⟩
  | fault fatal failed =>
    refine .ends ?_ ?_ rfl
    · rw [List.filterMap_append, failed.upcalls.taken]
      cases fatal <;> rfl
    · exact List.countP_pos_iff.2 ⟨.linkEvent d.link .fatalError, by simp, rfl⟩
  | stale => exact before.goesOn rfl rfl rfl
  | answerMode => exact before.goesOn rfl rfl rfl
  | switch quiet idle pending failed =>
    rename_i ticket es
    refine .ends ?_ ?_ rfl
    · exact failed.upcalls.taken
    · refine List.countP_pos_iff.2 ⟨.linkEvent d.link (.modeSetAccepted ticket.payload), ?_, rfl⟩
      exact List.mem_cons_self
  | refuseMode acknowledged quiet idle pending failed =>
    refine before.goesOn ?_ ?_ rfl
    · exact failed.upcalls.taken
    · exact failed.upcalls.finished
  | serve => exact before.goesOn rfl rfl rfl
  | drop => exact before.goesOn rfl rfl rfl
  | launch unhurried link chosen => exact before.sends chosen
  | busy => exact before.goesOn rfl rfl rfl

theorem Run.tracks {c : Config} {d : Device} {t : Trace} (h : Run c d t) : d.Tracks t := by
  induction h with
  | start => exact ⟨fun _ _ mem => absurd mem List.not_mem_nil, nofun⟩
  | move before last ih => exact last.tracks ih

/-! ## The frame of a request -/

def frameOf (d : Device) : Request → DeviceFrame
  | ⟨.input, data⟩ => .processData true data
  | request => .service request.kind (d.payload request)

theorem frameOf_congr {d u : Device} (store : u.store = d.store) (r : Request) :
    u.frameOf r = d.frameOf r := by
  unfold frameOf payload
  rw [store]

def Carries (d : Device) : Prop :=
  ∀ out k, d.inFlight = some out → out.carries = some k →
    ∃ r, d.slots.request? k = some r ∧ out.frame = d.frameOf r

theorem carries_of_none {d : Device} (frame : d.inFlight = none) : d.Carries := by
  intro out k some
  rw [frame] at some
  cases some

theorem Carries.keeps {d u : Device} (h : d.Carries) (frame : u.inFlight = d.inFlight)
    (store : u.store = d.store)
    (kept : ∀ k, d.riding = some k → u.slots.request? k = d.slots.request? k) : u.Carries := by
  intro out k some carries
  rw [frame] at some
  obtain ⟨r, request, same⟩ := h out k some carries
  have rides : d.riding = Option.some k := by rw [riding, some]; exact carries
  refine ⟨r, ?_, ?_⟩
  · rw [kept k rides, request]
  · rw [frameOf_congr store, same]

/-- A new frame that carries a request is the frame of that request. -/
theorem frame_of_fresh {d : Device} {out : InFlight} {k : Service} (h : d.choose = .fresh out)
    (carries : out.carries = some k) :
    ∃ r, d.slots.request? k = some r ∧ out.frame = d.frameOf r := by
  unfold choose at h
  split at h
  · cases h
  · split at h
    · rename_i ticket pending
      split at h
      · cases h
        cases carries
        exact ⟨_, Slots.request?_of_pending pending, rfl⟩
      · cases h
    · split at h
      · rename_i request next
        cases h
        cases carries
        obtain ⟨mem, found⟩ := Slots.request?_of_nextOutOfCycle next
        refine ⟨request, found, ?_⟩
        unfold frameOf
        split
        · have away : Service.input ∉ Service.outOfCycle := by decide
          exact absurd mem away
        · rfl
      · cases h
        cases carries

theorem Carries.launched {d : Device} (h : d.Carries) {mode : Mode} {out : InFlight}
    (chosen : d.choose = .again out ∨ d.choose = .fresh out) : (d.launched mode out).Carries := by
  have request (k : Service) : (d.launched mode out).slots.request? k = d.slots.request? k := by
    rw [slots_launched]
    cases out.carries with
    | none => rfl
    | some kind => exact Slots.request?_mark ..
  intro other k same carries
  cases same
  rw [request]
  rcases chosen with again | fresh
  · exact h out k (choose_again again) carries
  · exact frame_of_fresh fresh carries

theorem Move.carries {p : Phase} {d u : Device} {es : Trace} (h : Move p d es u)
    (booked : d.Booked) (before : d.Carries) : u.Carries := by
  -- The request that rides is marked, so a change to one that is not leaves it in place.
  have other {j k : Service} (unmarked : d.slots.isDispatched j = false)
      (rides : d.riding = some k) : k ≠ j := by
    intro same
    subst same
    rw [(booked.marks k).2 (.inl rides)] at unmarked
    cases unmarked
  cases h with
  | grant own granted =>
    refine before.keeps rfl rfl fun k rides => ?_
    have free := Slots.isDispatched_eq_false (isOpen_of_admits granted)
    exact Slots.request?_place_ne _ (other free rides) _
  | refuse => exact before
  | clock => exact before.keeps rfl rfl fun _ _ => rfl
  | silence => exact before
  | ignore => exact before
  | establish link =>
    have frame : d.inFlight = none := booked.inFlight_of_away (by rw [link]; rfl)
    exact carries_of_none frame
  | exchange link decode fits settles =>
    refine carries_of_none ?_
    rw [settles.eq]
  | retry => exact before.keeps rfl rfl fun _ _ => rfl
  | exhaust => exact carries_of_none rfl
  | fault => exact carries_of_none rfl
  | stale => exact before.keeps rfl rfl fun _ _ => rfl
  | answerMode acknowledged quiet pending =>
    refine before.keeps rfl rfl fun k rides => ?_
    exact Slots.request?_close_ne _ (other (Slots.isDispatched_of_isPending pending) rides)
  | switch => exact carries_of_none rfl
  | refuseMode acknowledged quiet idle pending failed =>
    refine before.keeps rfl rfl fun k rides => ?_
    have away := other (Slots.isDispatched_of_pending pending) rides
    have sound : d.link ≠ .fault := by
      intro fault
      have frame := booked.inFlight_of_away (by rw [fault]; rfl)
      rw [riding_of_inFlight frame] at rides
      cases rides
    change (d.survivors.close .setMode).request? k = _
    rw [Slots.request?_close_ne _ away, survivors, if_neg sound]
  | serve acknowledged unhurried link =>
    have frame : d.inFlight = none := booked.inFlight_of_away (by rw [link]; rfl)
    exact carries_of_none frame
  | drop acknowledged unhurried link long =>
    have frame : d.inFlight = none := choose_tooLong long
    exact carries_of_none frame
  | launch unhurried link chosen => exact before.launched chosen
  | busy => exact before

theorem Run.carries {c : Config} {d : Device} {t : Trace} (h : Run c d t) : d.Carries := by
  induction h with
  | start => exact carries_of_none rfl
  | move before last ih => exact last.carries before.booked ih

end Device

end Sdci
