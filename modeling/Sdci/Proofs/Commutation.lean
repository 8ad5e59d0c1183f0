import Mathlib.Data.List.Nodup
import Sdci.Proofs.Completion
import Sdci.Proofs.Submission

/-! # Requests in any order

Whether a request is taken depends on its own place, the link and the parameters, and a request that
is taken fills its own place and no more. So requests of different kinds that are made between two
ticks do not notice one another, whatever their order.

* `Device.submitted`: the device after a request, and `Device.submitted_comm`.
* `Session.submitAll`: requests made one after the other, with what comes of each.
* `Session.submissions_commute`: each of them is settled as if it were the only one, and the device
  that they leave is the same in every order.
-/

namespace Sdci
set_option autoImplicit false

theorem Slots.place_comm (s : Slots) {r r' : Request} (other : r'.kind ≠ r.kind) (now : Nat) :
    (s.place r now).place r' now = (s.place r' now).place r now := by
  refine ext_get fun k => ?_
  by_cases own : k = r.kind
  · subst own
    rw [get_place_ne _ (Ne.symm other), get_place_self, get_place_self]
  by_cases own' : k = r'.kind
  · subst own'
    rw [get_place_self, get_place_ne _ own, get_place_self]
  · rw [get_place_ne _ own', get_place_ne _ own, get_place_ne _ own, get_place_ne _ own']

namespace Device

/-! ## One request after another -/

/-- Of the slots only the place of the request matters. -/
theorem admits_of_isOpen (d : Device) {slots : Slots} {r : Request}
    (same : slots.isOpen r.kind = d.slots.isOpen r.kind) :
    { d with slots }.admits r = d.admits r := by
  unfold admits
  rw [same]
  rfl

/-- The device after a request. -/
def submitted (d : Device) (r : Request) : Device :=
  match d.admits r with
  | .ok () => { d with slots := d.slots.place r d.lastTick }
  | .error _ => d

variable {d : Device} {r r' : Request}

theorem submitted_of_ok (granted : d.admits r = .ok ()) :
    d.submitted r = { d with slots := d.slots.place r d.lastTick } := by
  rw [submitted, granted]

theorem submitted_of_error {cause : Failure} (refused : d.admits r = .error cause) :
    d.submitted r = d := by
  rw [submitted, refused]

/-- A request has no say in whether one of another kind is taken. -/
theorem admits_submitted (other : r'.kind ≠ r.kind) : (d.submitted r).admits r' = d.admits r' := by
  cases admission : d.admits r with
  | error cause => rw [submitted_of_error admission]
  | ok =>
    rw [submitted_of_ok admission]
    refine d.admits_of_isOpen ?_
    rw [Slots.isOpen_place, beq_false_of_ne other, Bool.false_or]

theorem submitted_comm (other : r'.kind ≠ r.kind) :
    (d.submitted r).submitted r' = (d.submitted r').submitted r := by
  have first := admits_submitted (d := d) (Ne.symm other)
  have second := admits_submitted (d := d) other
  cases admission : d.admits r with
  | error cause => rw [submitted_of_error admission, submitted_of_error (first.trans admission)]
  | ok =>
    cases admission' : d.admits r' with
    | error cause =>
      rw [submitted_of_error admission', submitted_of_error (second.trans admission')]
    | ok =>
      rw [submitted_of_ok (second.trans admission'), submitted_of_ok (first.trans admission),
        submitted_of_ok admission, submitted_of_ok admission']
      exact congrArg (fun slots => { d with slots }) (d.slots.place_comm other d.lastTick)

end Device

namespace Session

variable {σ : Type}

/-! ## A list of requests -/

/-- What a request comes to at once: its answer, and what the application is told with it. -/
structure Reply where
  request : Request
  answer : Except Failure Unit
  confirmed : List (Service × Outcome)

/-- What the application has been told between two moments, the latest first. -/
def confirmedUntil (s t : Session σ) : List (Service × Outcome) :=
  t.env.trace.confirmations.take
    (t.env.trace.confirmations.length - s.env.trace.confirmations.length)

theorem confirmedUntil_of_append {s t : Session σ} {told : List (Service × Outcome)}
    (h : t.env.trace.confirmations = told ++ s.env.trace.confirmations) :
    s.confirmedUntil t = told := by
  rw [confirmedUntil, h, List.length_append, Nat.add_sub_cancel, List.take_left]

variable [Application σ]

/-- What comes of a request that is made now. -/
def reply (s : Session σ) (r : Request) : Reply :=
  ⟨r, (s.submit r).1, s.confirmedUntil (s.submit r).2⟩

/-- Requests made one after the other, with what comes of each. -/
def submitAll (s : Session σ) : List Request → List Reply × Session σ
  | [] => ([], s)
  | r :: rest =>
    let later := (s.submit r).2.submitAll rest
    (s.reply r :: later.1, later.2)

theorem device_submit (s : Session σ) (r : Request) :
    (s.submit r).2.device = s.device.submitted r := by
  cases admission : s.device.admits r with
  | ok => rw [submit_of_ok admission, Device.submitted_of_ok admission]; rfl
  | error cause => rw [submit_of_error admission, Device.submitted_of_error admission]; rfl

/-- A request that is turned down is confirmed with the cause, and one that is taken is not. -/
theorem reply_eq (s : Session σ) (r : Request) :
    s.reply r = ⟨r, s.device.admits r, match s.device.admits r with
      | .ok () => []
      | .error cause => [(r.kind, .error cause)]⟩ := by
  unfold reply
  cases admission : s.device.admits r with
  | ok =>
    have trace : (s.submit r).2.env.trace.bare = [.requested r (.ok ())] ++ s.env.trace.bare := by
      rw [submit_of_ok admission]
      exact (Env.bare_note rfl).trans (Env.bare_enter rfl)
    rw [confirmedUntil_of_append (Trace.confirmations_of_bare trace), submit_of_ok admission]
    rfl
  | error cause =>
    obtain ⟨a, confirmed⟩ := ((s.enter (.requested r (.error cause))).env.note
      (.requestRejected r.kind cause)).bare_confirm r.kind (.error cause)
    have trace : (s.submit r).2.env.trace.bare =
        [.confirmed r.kind (.error cause) a, .requested r (.error cause)] ++ s.env.trace.bare := by
      rw [submit_of_error admission]
      exact confirmed.trans (congrArg _ ((Env.bare_note rfl).trans (Env.bare_enter rfl)))
    rw [confirmedUntil_of_append (Trace.confirmations_of_bare trace), submit_of_error admission]
    rfl

theorem reply_submit (s : Session σ) {r r' : Request} (other : r'.kind ≠ r.kind) :
    (s.submit r).2.reply r' = s.reply r' := by
  rw [reply_eq, reply_eq, device_submit, Device.admits_submitted other]

theorem device_submitAll (s : Session σ) (rs : List Request) :
    (s.submitAll rs).2.device = rs.foldl Device.submitted s.device := by
  induction rs generalizing s with
  | nil => rfl
  | cons r rest ih => rw [List.foldl_cons, ← device_submit, ← ih, submitAll]

/-- Of requests of different kinds each is settled as if it were the only one. -/
theorem replies_submitAll (s : Session σ) {rs : List Request}
    (kinds : (rs.map Request.kind).Nodup) : (s.submitAll rs).1 = rs.map s.reply := by
  induction rs generalizing s with
  | nil => rfl
  | cons r rest ih =>
    rw [List.map_cons, List.nodup_cons] at kinds
    obtain ⟨single, others⟩ := kinds
    rw [submitAll, ih _ others, List.map_cons]
    refine congrArg _ (List.map_congr_left fun r' mem => s.reply_submit fun same => ?_)
    exact single (same ▸ List.mem_map_of_mem mem)

/-- Of requests of pairwise different kinds each gets the answer and the confirmation that it would
get alone, in whatever order they are made, and the device they leave does not depend on the
order. -/
theorem submissions_commute (s : Session σ) {rs rs' : List Request} (order : rs.Perm rs')
    (kinds : (rs.map Request.kind).Nodup) :
    (s.submitAll rs).1 = rs.map s.reply ∧ (s.submitAll rs').1 = rs'.map s.reply ∧
      (s.submitAll rs).1.Perm (s.submitAll rs').1 ∧
      (s.submitAll rs).2.device = (s.submitAll rs').2.device := by
  have replies := s.replies_submitAll kinds
  have replies' := s.replies_submitAll ((order.map Request.kind).nodup_iff.1 kinds)
  refine ⟨replies, replies', ?_, ?_⟩
  · rw [replies, replies']
    exact order.map s.reply
  · rw [device_submitAll, device_submitAll]
    refine order.foldl_eq' (fun r mem r' mem' d => ?_) s.device
    by_cases same : r'.kind = r.kind
    · rw [List.inj_on_of_nodup_map kinds mem' mem same]
    · exact Device.submitted_comm same

/-- On a link that is up a device id that is too wide is turned down, whether it is asked for before
or after new input data and a question about the parameters. -/
theorem submissions_commute_linked :
    let rs : List Request := [⟨.setIdent, ⟨0, 0x1000000, 0⟩⟩, ⟨.input, [1, 2]⟩, ⟨.getCom, ()⟩]
    Reach Bench.linked ∧ rs.Perm rs.reverse ∧ (rs.map Request.kind).Nodup ∧
      (Bench.linked.submitAll rs).1.map (·.confirmed.map Prod.fst) = [[.setIdent], [], []] ∧
      (Bench.linked.submitAll rs.reverse).1.map (·.confirmed.map Prod.fst) = [[], [], [.setIdent]] ∧
      (Bench.linked.submitAll rs).2.device = (Bench.linked.submitAll rs.reverse).2.device := by
  intro rs
  have order : rs.Perm rs.reverse := rs.reverse_perm.symm
  have kinds : (rs.map Request.kind).Nodup := by decide
  have told : (rs.map Bench.linked.reply).map (·.confirmed.map Prod.fst) =
      [[.setIdent], [], []] := by decide +kernel
  obtain ⟨forth, back, -, device⟩ := Bench.linked.submissions_commute order kinds
  refine ⟨Bench.reach_linked, order, kinds, ?_, ?_, device⟩
  · rw [forth, told]
  · rw [back, List.map_reverse, List.map_reverse, told]
    rfl

end Session

end Sdci
