import Sdci.Proofs.Completion

/-! # Attempts and failures

A frame that is not answered properly is sent again, the same octets each time, as long as the retry
limit allows. The failure that goes beyond the limit ends communication, and all open requests with
it; the failures before it end none.

* `Trace.failures`, `Trace.attempts`: the recoverable failures and the transfers of the present
  exchange.
* `Device.Counted`: the device counts the failures, and makes one attempt more than it has failed.
* `Device.Move.repeats`: within an exchange the transceiver is offered one frame.
* `Session.Handles`: what a tick does about one recoverable failure.
* `Session.Reach.retries_bounded`: all of it in every run.
-/

namespace Sdci
set_option autoImplicit false

theorem Retries.toNat_count_fail {r : Retries} (left : r.left = true) :
    r.fail.count.toNat = r.count.toNat + 1 := by
  have below : r.count.toNat < r.limit.toNat := UInt8.lt_iff_toNat_lt.1 (of_decide_eq_true left)
  have top := r.limit.toNat_lt
  change (bump8 r.count).toNat = _
  rw [toNat_bump8]
  omega

/-! ## Failures and attempts in a history -/

namespace Event

def isFailure : Event → Bool
  | linkEvent _ .recoverableError => true
  | _ => false

def offered? : Event → Option Octets
  | transferred frame _ => some frame
  | _ => none

end Event

namespace Trace

/-- The recoverable failures since an exchange was over. -/
def failures : Trace → Nat
  | [] => 0
  | e :: t => if e.endsExchange then 0 else failures t + e.isFailure.toNat

/-- The transfers since an exchange was over. -/
def attempts (t : Trace) : Nat := (transfers t).countP (·.exchange == finished t)

theorem failures_bare (t : Trace) : failures (bare t) = failures t := by
  induction t with
  | nil => rfl
  | cons e t ih =>
    cases remark : e.isRemark with
    | true =>
      have none : e.endsExchange = false ∧ e.isFailure = false := by
        cases e <;> first | exact ⟨rfl, rfl⟩ | cases remark
      rw [bare_cons_remark remark, failures, none.1, none.2, ih]
      rfl
    | false => rw [bare_cons remark, failures, failures, ih]

theorem Upcalls.failures {es : Trace} (h : es.Upcalls) (t : Trace) :
    failures (es ++ t) = failures t := by
  induction es with
  | nil => rfl
  | cons e es ih =>
    have upcall := h e List.mem_cons_self
    have none : e.endsExchange = false ∧ e.isFailure = false := by
      cases e <;> first | exact ⟨rfl, rfl⟩ | cases upcall
    rw [List.cons_append, Trace.failures, none.1, none.2,
      ih fun x mem => h x (List.mem_cons_of_mem e mem)]
    rfl

theorem Upcalls.offered {es : Trace} (h : es.Upcalls) : es.filterMap Event.offered? = [] := by
  refine List.filterMap_eq_nil_iff.2 fun e mem => ?_
  have upcall := h e mem
  cases e <;> first | rfl | cases upcall

end Trace

open Trace

namespace Device

/-! ## Counting -/

structure Counted (d : Device) (t : Trace) : Prop where
  failures : d.retries.count.toNat = failures t
  /-- While a frame is on the line, one attempt has not failed yet. -/
  attempts : attempts t = Trace.failures t + d.link.isTransferring.toNat
  bounded : ∀ n, (transfers t).countP (·.exchange == n) ≤ d.config.maxRetries.toNat + 1

namespace Counted

variable {d u : Device} {es t : Trace}

/-- Nothing is sent, nothing fails, and the exchange goes on. -/
theorem goesOn (h : d.Counted t) (taken : es.filterMap Event.taken? = []) (more : finished es = 0)
    (same : Trace.failures (es ++ t) = Trace.failures t)
    (count : u.retries.count = d.retries.count)
    (link : u.link.isTransferring = d.link.isTransferring) (config : u.config = d.config) :
    u.Counted (es ++ t) := by
  constructor
  · rw [count, same]
    exact h.failures
  · rw [Trace.attempts, transfers_append taken, finished_append, more, Nat.zero_add, same, link]
    exact h.attempts
  · rw [transfers_append taken, config]
    exact h.bounded

/-- The event `e` ends the exchange, and the application hears of it. -/
theorem ends (h : d.Counted t) {e : Event} {upcalls : Trace} (called : upcalls.Upcalls)
    (last : e.endsExchange = true) (taken : es.filterMap Event.taken? = [])
    (count : u.retries.count = 0) (link : u.link.isTransferring = false)
    (config : u.config = d.config) : u.Counted (upcalls ++ e :: (es ++ t)) := by
  have same : transfers (upcalls ++ e :: (es ++ t)) = transfers t := by
    have untaken : e.taken? = none := by cases e <;> first | rfl | cases last
    rw [transfers_append called.taken, transfers_cons_of_not_taken untaken, transfers_append taken]
  have none : Trace.failures (upcalls ++ e :: (es ++ t)) = 0 := by
    rw [called.failures, Trace.failures, if_pos last]
  constructor
  · rw [count, none]
    rfl
  · have later : finished t < finished (upcalls ++ e :: (es ++ t)) := by
      have one : finished (e :: (es ++ t)) = finished (es ++ t) + 1 := List.countP_cons_of_pos last
      rw [finished_append, one, finished_append]
      omega
    rw [none, link, Trace.attempts, same]
    refine List.countP_eq_zero.2 fun x mem => ?_
    have past := exchange_le_finished mem
    rw [beq_iff_eq]
    omega
  · rw [same, config]
    exact h.bounded

theorem retried (h : d.Counted t) {p : Phase} {mode : Mode} {cause : Failure} {e : Event}
    (link : d.link = .transferring mode) (mishap : Mishap d p cause e)
    (left : d.retries.left = true) :
    (d.retried mode cause).Counted ([.cycled, .linkEvent d.link .recoverableError, e] ++ t) := by
  have same : transfers ([.cycled, .linkEvent d.link .recoverableError, e] ++ t) = transfers t :=
    transfers_append (by cases mishap <;> rfl) t
  have goesOn : finished ([.cycled, .linkEvent d.link .recoverableError, e] ++ t) = finished t := by
    cases mishap <;> rfl
  have more : Trace.failures ([.cycled, .linkEvent d.link .recoverableError, e] ++ t) =
      Trace.failures t + 1 := by cases mishap <;> rfl
  have attempts := h.attempts
  rw [link] at attempts
  constructor
  · rw [more, ← h.failures]
    exact Retries.toNat_count_fail left
  · rw [more, Trace.attempts, same, goesOn]
    exact attempts
  · rw [same]
    exact h.bounded

theorem launched (h : d.Counted t) (booked : d.Booked) {mode : Mode} {out : InFlight}
    {source : Link} (link : d.link = .active mode) :
    (d.launched mode out).Counted
      ([.linkEvent source .transferAccepted, .transferred out.frame.encode true] ++ t) := by
  have sent : transfers ([.linkEvent source .transferAccepted,
      .transferred out.frame.encode true] ++ t) =
      transfers t ++ [⟨finished t, out.frame.encode⟩] := transfers_cons_of_not_taken rfl _
  have attempts : Trace.attempts t = Trace.failures t := by
    rw [h.attempts, link]
    rfl
  have left : Trace.failures t ≤ d.config.maxRetries.toNat := by
    rw [← h.failures, ← booked.limit]
    exact UInt8.le_iff_toNat_le.1 booked.bounded
  constructor
  · exact h.failures
  · rw [Trace.attempts, sent, List.countP_append, List.countP_singleton]
    change Trace.attempts t + (if finished t == finished t then 1 else 0) = Trace.failures t + 1
    rw [attempts, if_pos (beq_self_eq_true _)]
  · intro n
    rw [sent, List.countP_append, List.countP_singleton]
    split
    · rename_i present
      obtain rfl : finished t = n := beq_iff_eq.1 present
      change Trace.attempts t + 1 ≤ d.config.maxRetries.toNat + 1
      omega
    · exact h.bounded n

end Counted

theorem Move.counted {p : Phase} {d u : Device} {es t : Trace} (h : Move p d es u)
    (booked : d.Booked) (before : d.Counted t) : u.Counted (es ++ t) := by
  cases h with
  | establish link requested lost done =>
    rename_i mode es₁ es₂
    have engages := booked.engages
    rw [link] at engages
    have confirmed := done.upcalls.append lost.upcalls
    refine before.goesOn ?_ ?_ ?_ engages.2.symm ?_ rfl
    · rw [List.filterMap_append, confirmed.taken]
      rfl
    · rw [finished_append, confirmed.finished]
      rfl
    · rw [List.append_assoc, confirmed.failures]
      rfl
    · rw [link, established]
      cases mode.active <;> rfl
  | exchange link decode fits settles delivers signals serves =>
    rename_i v mode frame master i₁ i₂ slots es₁ es₂ es₃ es₄
    obtain ⟨upcalls, called, whole⟩ := upcalls_exchange settles delivers signals serves
      [.linkEvent d.link .transferSucceeded, .polled (some (.transferComplete frame))] t
    rw [whole, settles.eq]
    exact before.ends called rfl rfl rfl rfl rfl
  | retry link mishap left => exact before.retried link mishap left
  | exhaust link mishap left failed =>
    rw [List.append_assoc]
    cases mishap <;> exact before.ends failed.upcalls rfl rfl rfl rfl rfl
  | fault fatal failed =>
    rw [List.append_assoc]
    cases fatal <;> exact before.ends failed.upcalls rfl rfl rfl rfl rfl
  | switch quiet idle pending failed =>
    have none : Trace.Upcalls [] := List.forall_mem_nil _
    exact before.ends none rfl failed.upcalls.taken rfl rfl rfl
  | refuseMode acknowledged quiet idle pending failed =>
    exact before.goesOn failed.upcalls.taken failed.upcalls.finished (failed.upcalls.failures t) rfl
      rfl rfl
  | launch unhurried link chosen => exact before.launched booked link
  | _ => exact before.goesOn rfl rfl rfl rfl rfl rfl

theorem Run.counted {c : Config} {d : Device} {t : Trace} (h : Run c d t) : d.Counted t := by
  induction h with
  | start => exact ⟨rfl, rfl, fun _ => Nat.zero_le _⟩
  | move before last ih => exact last.counted before.booked ih

/-! ## One frame in an exchange -/

theorem last_offer {m : Trace} {frame out : Octets} {a b : Bool}
    (h : .transferred frame a :: m <:+ [.transferred out b]) : m = [] ∧ frame = out := by
  rcases List.suffix_cons_iff.1 h with whole | none
  · cases whole
    exact ⟨rfl, rfl⟩
  · cases List.suffix_nil.1 none

theorem Move.offers {p : Phase} {d u : Device} {es m : Trace} {frame : Octets} {accepted : Bool}
    (h : Move p d es u) (latest : .transferred frame accepted :: m <:+ es) :
    m = [] ∧ ∃ out, (d.choose = .again out ∨ d.choose = .fresh out) ∧ frame = out.frame.encode := by
  -- Only the moves of an exchange offer a frame.
  have offered : es.filterMap Event.offered? ≠ [] := fun none =>
    nomatch List.filterMap_eq_nil_iff.1 none _ (latest.subset List.mem_cons_self)
  cases h with
  | establish link requested lost done =>
    refine absurd ?_ offered
    simp [Event.offered?, done.upcalls.offered, lost.upcalls.offered]
  | exchange link decode fits settles delivers signals serves =>
    refine absurd ?_ offered
    simp only [List.filterMap_cons, List.filterMap_append, settles.upcalls.offered,
      delivers.upcalls.offered, signals.upcalls.offered, serves.upcalls.offered, Event.offered?]
    rfl
  | retry link mishap left =>
    refine absurd ?_ offered
    cases mishap <;> rfl
  | exhaust link mishap left failed =>
    refine absurd ?_ offered
    cases mishap <;> simp [Event.offered?, failed.upcalls.offered]
  | fault fatal failed =>
    refine absurd ?_ offered
    cases fatal <;> simp [Event.offered?, failed.upcalls.offered]
  | switch quiet idle pending failed => exact absurd failed.upcalls.offered offered
  | refuseMode acknowledged quiet idle pending failed => exact absurd failed.upcalls.offered offered
  | launch unhurried link chosen =>
    rcases List.suffix_cons_iff.1 latest with whole | offer
    · cases whole
    · obtain ⟨rfl, rfl⟩ := last_offer offer
      exact ⟨rfl, _, chosen, rfl⟩
  | busy unhurried link chosen =>
    obtain ⟨rfl, rfl⟩ := last_offer latest
    exact ⟨rfl, _, chosen, rfl⟩
  | _ => exact absurd rfl offered

/-- Every frame offered is the one that the transceiver has taken in this exchange, if any. -/
theorem Run.repeats {c : Config} {d : Device} {t : Trace} (h : Run c d t) {m : Trace}
    {frame : Octets} {accepted : Bool} (offer : .transferred frame accepted :: m <:+ t) :
    ∀ x ∈ transfers m, x.exchange = finished m → x.frame = frame := by
  induction h with
  | start => cases List.suffix_nil.1 offer
  | move before last ih =>
    rcases suffix_append offer with earlier | ⟨m, rfl, latest⟩
    · exact ih earlier
    obtain ⟨rfl, out, chosen, rfl⟩ := last.offers latest
    intro x mem present
    rcases chosen with again | fresh
    · exact before.tracks.current out (choose_again again) x mem present
    · have past := before.tracks.idle (choose_fresh fresh).1 x mem
      rw [List.nil_append] at present
      omega

end Device

/-! ## Failures in a tick -/

theorem Confirms.confirmations {outcome : Outcome} {ks : List Service} {es : Trace}
    (h : Confirms outcome ks es) :
    es.confirmations = (ks.map fun kind => (kind, outcome)).reverse := by
  induction h with
  | nil => rfl
  | cons a rest ih =>
    rw [Trace.confirmations_append, ih, List.map_cons, List.reverse_cons]
    rfl

namespace Session

open Device Trace

variable {σ : Type} {s u t : Session σ} {now : Nat} {cause : Failure}

theorem bare_poll_eq [Transceiver σ] {i : Indication} (report : s.env.poll.1 = some i) :
    s.env.poll.2.trace.bare = .polled (some i) :: s.env.trace.bare := by
  rw [← report]
  exact s.env.bare_poll

variable [Application σ]

theorem poll_eq_recover_of_garbled [Transceiver σ] {mode : Mode} {frame : Octets}
    (link : s.device.link = .transferring mode)
    (report : s.env.poll.1 = some (.transferComplete frame))
    (decode : MasterFrame.decode frame = .error cause) (minor : cause.recoverable = true) :
    s.poll now =
      ((stopTimer ⟨s.device, s.env.poll.2⟩ .transfer).note (.received frame)).recover cause := by
  have busy : s.device.link.isTransferring = true := by rw [link]; rfl
  unfold poll
  dsimp only
  rw [report]
  dsimp only [receive]
  rw [transferComplete, if_pos (by exact busy), decode]
  exact if_pos minor

theorem poll_eq_recover_of_spoilt [Transceiver σ] {mode : Mode} {fault : LineFault}
    (link : s.device.link = .transferring mode)
    (report : s.env.poll.1 = some (.transferFailed fault)) :
    s.poll now = (stopTimer ⟨s.device, s.env.poll.2⟩ .transfer).recover fault.failure := by
  have busy : s.device.link.isTransferring = true := by rw [link]; rfl
  unfold poll
  dsimp only
  rw [report]
  dsimp only [receive]
  rw [transferFailed, if_pos (by exact busy)]

theorem serveTimer_eq_recover {mode : Mode} (link : s.device.link = .transferring mode) :
    s.serveTimer .transfer =
      ((s.enter (.expired .transfer)).stopTimer .transfer).recover .timeout := by
  have same : ((s.enter (.expired .transfer)).stopTimer .transfer).device.link =
      .transferring mode := link
  unfold serveTimer timeout
  rw [same]

variable [Transceiver σ]

/-- The sessions that the tick of `s` at `now` goes through while it serves timers. -/
inductive Expires (s : Session σ) (now : Nat) : Session σ → Prop
  | polled : Expires s now ((s.enterTick now).poll now)
  | served {u : Session σ} {timer : Timer} (before : Expires s now u)
      (due : u.device.line.timers.due? now = some timer) : Expires s now (u.serveTimer timer)

/-- In the tick of `s` at `now` a recoverable failure comes up, with the session before and after it
is dealt with. -/
inductive Handles (s : Session σ) (now : Nat) : Failure → Session σ → Session σ → Prop
  | garbled {mode : Mode} {frame : Octets} {cause : Failure}
      (link : s.device.link = .transferring mode)
      (report : (s.enterTick now).env.poll.1 = some (.transferComplete frame))
      (decode : MasterFrame.decode frame = .error cause) (minor : cause.recoverable = true) :
      Handles s now cause (s.enterTick now) ((s.enterTick now).poll now)
  | spoilt {mode : Mode} {fault : LineFault} (link : s.device.link = .transferring mode)
      (report : (s.enterTick now).env.poll.1 = some (.transferFailed fault)) :
      Handles s now fault.failure (s.enterTick now) ((s.enterTick now).poll now)
  | unanswered {u : Session σ} {mode : Mode} (before : Expires s now u)
      (link : u.device.link = .transferring mode)
      (due : u.device.line.timers.due? now = some .transfer) :
      Handles s now .timeout u (u.serveTimer .transfer)

theorem Expires.run (h : Expires s now u) {c : Config} (run : Run c s.device s.env.trace.bare) :
    u.device.lastTick = now ∧ Run c u.device u.env.trace.bare := by
  obtain ⟨entered, polled, -, -⟩ := s.performs_tick now
  induction h with
  | polled =>
    have time : ((s.enterTick now).poll now).device.lastTick = now := polled.performs.lastTick nofun
    exact ⟨time, polled.performs.run (entered.performs.run run)⟩
  | served before due ih =>
    obtain ⟨time, run⟩ := ih
    rw [← time] at due
    have served := (makes_serveTimer due).performs
    exact ⟨(served.lastTick nofun).trans time, served.run run⟩

theorem Handles.run (h : Handles s now cause u t) {c : Config}
    (run : Run c s.device s.env.trace.bare) : Run c u.device u.env.trace.bare := by
  obtain ⟨entered, -⟩ := s.performs_tick now
  cases h with
  | garbled => exact entered.performs.run run
  | spoilt => exact entered.performs.run run
  | unanswered before => exact (before.run run).2

/-- However a failure comes up, the device recovers from it. -/
theorem Handles.recovers (h : Handles s now cause u t) :
    ∃ (v : Session σ) (mode : Mode) (e : Event),
      t = v.recover cause ∧ u.device.link = .transferring mode ∧
      v.device = { u.device with line := u.device.line.stopTimer .transfer } ∧
      v.env.trace.bare = e :: u.env.trace.bare ∧
      ∀ b, confirmations (e :: b) = confirmations b ∧ failures (e :: b) = failures b := by
  cases h with
  | garbled link report decode minor =>
    rename_i mode frame
    have trace := (Env.bare_note (m := .received frame) rfl).trans (bare_poll_eq report)
    exact ⟨_, mode, _, poll_eq_recover_of_garbled link report decode minor, link, rfl, trace,
      fun _ => ⟨rfl, rfl⟩⟩
  | spoilt link report =>
    rename_i mode fault
    exact ⟨_, mode, _, poll_eq_recover_of_spoilt link report, link, rfl, bare_poll_eq report,
      fun _ => ⟨rfl, rfl⟩⟩
  | unanswered before link due =>
    rename_i mode
    exact ⟨_, mode, _, serveTimer_eq_recover link, link, rfl, Env.bare_enter rfl,
      fun _ => ⟨rfl, rfl⟩⟩

/-- The counter never fills up before the limit is reached, so it tells the failures exactly. -/
theorem left_iff {d : Device} {b : Trace} (booked : d.Booked) (counted : d.Counted b) :
    d.retries.left = true ↔ b.failures + 1 ≠ d.config.maxRetries.toNat + 1 := by
  have most := UInt8.le_iff_toNat_le.1 booked.bounded
  have left : d.retries.left = true ↔ d.retries.count.toNat < d.retries.limit.toNat :=
    decide_eq_true_iff.trans UInt8.lt_iff_toNat_lt
  rw [left, ← counted.failures, ← booked.limit]
  omega

/-- Dealing with the failure number `n` of an exchange stops communication if `n` is beyond the
retry limit, and then fails all open requests with the cause. Otherwise it ends none. -/
theorem Handles.faults_iff (h : Handles s now cause u t) {c : Config}
    (run : Run c s.device s.env.trace.bare) :
    let n := u.env.trace.failures + 1
    let limit := s.device.config.maxRetries.toNat
    (t.link = .fault ↔ n = limit + 1) ∧
      (n = limit + 1 → t.outstanding = [] ∧
        t.env.trace.confirmations =
          (u.outstanding.map fun kind => (kind, .error cause)).reverse ++
            u.env.trace.confirmations) ∧
      (n ≠ limit + 1 → t.device.slots = u.device.slots ∧
        t.env.trace.confirmations = u.env.trace.confirmations ∧ t.env.trace.failures = n) := by
  intro n limit
  have here := h.run run
  have config : s.device.config = u.device.config := run.config_eq.trans here.config_eq.symm
  have left := left_iff here.booked here.counted
  rw [failures_bare, ← config] at left
  change _ ↔ n ≠ limit + 1 at left
  obtain ⟨v, mode, e, rfl, link, device, told, quiet⟩ := h.recovers
  obtain ⟨confirmed, failed⟩ := quiet u.env.trace.bare
  rw [← told, confirmations_bare u.env.trace] at confirmed
  rw [← told, failures_bare u.env.trace] at failed
  rcases recover_cases cause device link with
    ⟨again, after, trace⟩ | ⟨spent, after, es, confirms, trace⟩
  · have below := left.1 again
    have steady : (v.recover cause).link = .active mode := congrArg Device.link after
    have unfaulted : (v.recover cause).link ≠ .fault := by
      rw [steady]
      nofun
    refine ⟨⟨fun fault => absurd fault unfaulted, fun last => absurd last below⟩,
      fun last => absurd last below, fun _ => ⟨?_, ?_, ?_⟩⟩
    · rw [after]
      rfl
    · rw [← confirmations_bare, trace]
      exact confirmed
    · rw [← failures_bare, trace]
      exact congrArg (· + 1) failed
  · have last : n = limit + 1 := Decidable.not_not.1 fun below => by
      rw [left.2 below] at spent
      cases spent
    have fault : (v.recover cause).link = .fault := congrArg Device.link after
    refine ⟨⟨fun _ => last, fun _ => fault⟩, fun _ => ⟨?_, ?_⟩, fun below => absurd last below⟩
    · rw [outstanding, after]
      rfl
    · rw [← confirmations_bare, trace, confirmations_append, confirms.confirmations]
      exact congrArg (_ ++ ·) confirmed

/-- In every run each transfer of an exchange is another attempt with the same frame, and there is
one more than the retry limit at most. Of the failures in a row the one beyond the limit, and no
other, stops communication and fails all open requests with its cause. -/
theorem Reach.retries_bounded (h : Reach s) :
    (∀ (before : Trace) frame accepted, .transferred frame accepted :: before <:+ s.env.trace →
      ∀ x ∈ before.transfers, x.exchange = before.finished → x.frame = frame) ∧
    (∀ n, s.env.trace.transfers.countP (·.exchange == n) ≤ s.device.config.maxRetries.toNat + 1) ∧
    ∀ now cause u t, s.Handles now cause u t →
      let n := u.env.trace.failures + 1
      let limit := s.device.config.maxRetries.toNat
      (t.link = .fault ↔ n = limit + 1) ∧
        (n = limit + 1 → t.outstanding = [] ∧
          t.env.trace.confirmations =
            (u.outstanding.map fun kind => (kind, .error cause)).reverse ++
              u.env.trace.confirmations) ∧
        (n ≠ limit + 1 → t.device.slots = u.device.slots ∧
          t.env.trace.confirmations = u.env.trace.confirmations ∧ t.env.trace.failures = n) := by
  obtain ⟨c, -, run⟩ := h.run
  refine ⟨fun before frame accepted offer x mem present => ?_, fun n => ?_,
    fun now cause u t handles => handles.faults_iff run⟩
  · have offer : bare (.transferred frame accepted :: before) <:+ s.env.trace.bare := offer.filter _
    rw [bare_cons rfl] at offer
    rw [← transfers_bare] at mem
    rw [← finished_bare] at present
    exact run.repeats offer x mem present
  · rw [← transfers_bare]
    exact run.counted.bounded n

end Session

/-! ## A frame without an answer -/

namespace Bench

open Session

/-- A new device that may not try anything twice, and whose frames are not answered. -/
def strict : Session Bench :=
  note ⟨.ofConfig { maxRetries := 0 }, { device := ⟨1⟩, host := { wire := { reply := false } } }⟩
    .created

/-- The same device with its first frame on the line and an event to report. -/
def unanswered : Session Bench := (((strict.setMode .com1).2.tick 1000).tick 2000).sendEvent 7 |>.2

theorem reach_unanswered : Reach unanswered := by
  have made : create ⟨1⟩ { maxRetries := 0 } ({ wire := { reply := false } } : Bench) =
      .ok strict := rfl
  exact ((((Reach.create made).submit ⟨.setMode, .com1⟩ nofun).tick 1000).tick 2000).submit
    ⟨.event, 7⟩ nofun

end Bench

theorem Session.retries_bounded_unanswered :
    let u := (Bench.unanswered.enterTick 12000).poll 12000
    Session.Reach Bench.unanswered ∧
      Bench.unanswered.Handles 12000 .timeout u (u.serveTimer .transfer) ∧
      (u.serveTimer .transfer).link = .fault ∧
      (u.serveTimer .transfer).env.trace.confirmations =
        (.event, .error .timeout) :: u.env.trace.confirmations := by
  intro u
  have reach := Bench.reach_unanswered
  have link : u.device.link = .transferring .com1 := by decide +kernel
  have due : u.device.line.timers.due? 12000 = some .transfer := by decide +kernel
  have first : u.env.trace.failures + 1 = Bench.unanswered.device.config.maxRetries.toNat + 1 := by
    decide +kernel
  have outstanding : u.outstanding = [.event] := by decide +kernel
  have handles : Bench.unanswered.Handles 12000 .timeout u (u.serveTimer .transfer) :=
    .unanswered .polled link due
  obtain ⟨fault, last, -⟩ := reach.retries_bounded.2.2 12000 .timeout u _ handles
  obtain ⟨-, confirmed⟩ := last first
  rw [outstanding] at confirmed
  exact ⟨reach, handles, fault.2 first, confirmed⟩

end Sdci
