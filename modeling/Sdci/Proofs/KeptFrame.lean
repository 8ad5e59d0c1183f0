import Sdci.Proofs.Completion

/-! # The kept frame is a current one

A device keeps the frame of an exchange until it is answered, while requests come in and the frame
is sent again and again. Nothing the frame was made from changes meanwhile: it is the frame that the
device would make now, and the one that the transceiver took last.

* `Device.Builds`: the frames a device makes in its present state.
* `Device.Kept`: what the input image and the history say of the frame in flight.
* `Store.Honours`: a request about parameters ends as the octets on its frame say.
* `Session.Reach.kept_frame_current`: the frame in flight is current, and the answer to it completes
  what went over the wire.
-/

namespace Sdci
set_option autoImplicit false

/-- What a frame owes to the input image. -/
inductive InFlight.Suits (i : Image) : InFlight → Prop
  | cyclic : Suits i ⟨.processData i.valid i.data, none⟩
  | input {data : Octets} (fits : data.length ≤ i.maxLength) :
      Suits i ⟨.processData true data, some .input⟩
  | service {kind : Service} {payload : Octets} (mem : kind ∈ Service.outOfCycle) :
      Suits i ⟨.service kind payload, some kind⟩

theorem Slots.kind_of_request? {s : Slots} {k : Service} {r : Request}
    (h : s.request? k = some r) : r.kind = k := by
  obtain ⟨_, -, rfl⟩ := Option.map_eq_some_iff.1 h
  rfl

namespace Device

/-! ## Current frames -/

/-- The frames that are made of what the device holds now. -/
inductive Builds (d : Device) : InFlight → Prop
  | cyclic : Builds d d.cyclicFrame
  | input {data : Octets} (ticket : d.slots.request? .input = some ⟨.input, data⟩)
      (fits : data.length ≤ d.images.input.maxLength) :
      Builds d ⟨.processData true data, some .input⟩
  | service {request : Request} (mem : request.kind ∈ Service.outOfCycle)
      (ticket : d.slots.request? request.kind = some request) :
      Builds d (d.serviceFrame request)

theorem frameOf_input (d : Device) (data : Octets) :
    d.frameOf ⟨.input, data⟩ = .processData true data := rfl

theorem frameOf_service (d : Device) {r : Request} (mem : r.kind ∈ Service.outOfCycle) :
    d.frameOf r = .service r.kind (d.payload r) := by
  unfold frameOf
  split
  · exact absurd mem (by decide : Service.input ∉ Service.outOfCycle)
  · rfl

/-- A frame that suits the input image and is the frame of the request on it is a current one. -/
theorem builds_of_suits {d : Device} {out : InFlight} (suits : out.Suits d.images.input)
    (carries : ∀ k, out.carries = some k →
      ∃ r, d.slots.request? k = some r ∧ out.frame = d.frameOf r) : d.Builds out := by
  cases suits with
  | cyclic => exact .cyclic
  | input fits =>
    rename_i data
    obtain ⟨⟨kind, payload⟩, ticket, same⟩ := carries .input rfl
    obtain rfl : kind = .input := Slots.kind_of_request? ticket
    obtain rfl : data = payload := by
      rw [frameOf_input] at same
      exact (DeviceFrame.processData.inj same).2
    exact .input ticket fits
  | service mem =>
    rename_i kind payload
    obtain ⟨r, ticket, same⟩ := carries kind rfl
    obtain rfl : r.kind = kind := Slots.kind_of_request? ticket
    rw [frameOf_service d mem] at same
    obtain rfl := (DeviceFrame.service.inj same).2
    exact .service mem ticket

theorem suits_of_fresh {d : Device} {out : InFlight} (h : d.choose = .fresh out) :
    out.Suits d.images.input := by
  unfold choose at h
  split at h
  · cases h
  · split at h
    · rename_i ticket pending
      split at h
      · rename_i checked
        cases h
        refine .input (Nat.not_lt.1 fun long => ?_)
        rw [Image.check, if_pos long] at checked
        cases checked
      · cases h
    · split at h
      · rename_i request next
        cases h
        exact .service (Slots.request?_of_nextOutOfCycle next).1
      · cases h
        exact .cyclic

/-! ## One move -/

/-- The frame in flight suits the input image, and the transceiver took it last. -/
def Kept (d : Device) (t : Trace) : Prop :=
  ∀ out, d.inFlight = some out → out.Suits d.images.input ∧ t.sent = some out.frame.encode

namespace Kept

variable {d u : Device} {es t : Trace}

theorem of_none (frame : u.inFlight = none) : u.Kept t := by
  intro out kept
  rw [frame] at kept
  cases kept

theorem keeps (h : d.Kept t) (frame : u.inFlight = d.inFlight)
    (image : u.images.input = d.images.input) (sent : Trace.sent (es ++ t) = Trace.sent t) :
    u.Kept (es ++ t) := by
  intro out kept
  rw [frame] at kept
  rw [image, sent]
  exact h out kept

end Kept

theorem Move.kept {p : Phase} {d u : Device} {es t : Trace} (h : Move p d es u)
    (booked : d.Booked) (before : d.Kept t) : u.Kept (es ++ t) := by
  cases h with
  | establish link =>
    have frame : d.inFlight = none := booked.inFlight_of_away (by rw [link]; rfl)
    exact .of_none frame
  | exchange link decode fits settles =>
    refine .of_none ?_
    rw [settles.eq]
  | retry link mishap left => cases mishap <;> exact before.keeps rfl rfl rfl
  | exhaust => exact .of_none rfl
  | fault => exact .of_none rfl
  | switch => exact .of_none rfl
  | refuseMode acknowledged quiet idle pending failed =>
    exact before.keeps rfl rfl (failed.upcalls.sent t)
  | launch unhurried link chosen =>
    rename_i mode out
    have suits : out.Suits d.images.input := by
      rcases chosen with again | fresh
      · exact (before out (choose_again again)).1
      · exact suits_of_fresh fresh
    intro other kept
    cases kept
    exact ⟨suits, rfl⟩
  | _ => exact before.keeps rfl rfl rfl

theorem Run.kept {c : Config} {d : Device} {t : Trace} (h : Run c d t) : d.Kept t := by
  induction h with
  | start => exact .of_none rfl
  | move before last ih => exact last.kept before.booked ih

/-- What rides on a frame is new input data, or a request that travels as a service frame. -/
theorem Run.kind_of_riding {c : Config} {d : Device} {t : Trace} (h : Run c d t) {k : Service}
    (rides : d.riding = some k) : k = .input ∨ k ∈ Service.outOfCycle := by
  obtain ⟨out, kept, carries⟩ := Option.bind_eq_some_iff.1 rides
  have suits := (h.kept out kept).1
  cases suits with
  | cyclic => cases carries
  | input => exact .inl (Option.some.inj carries).symm
  | service mem => exact .inr (Option.some.inj carries ▸ mem)

theorem Run.builds {c : Config} {d : Device} {t : Trace} (h : Run c d t) {out : InFlight}
    (kept : d.inFlight = some out) : d.Builds out :=
  builds_of_suits (h.kept out kept).1 fun k carries => h.carries out k kept carries

/-- The frame of a request that rides was sent last, as it would be made now. -/
theorem Run.sent_rider {c : Config} {d : Device} {t : Trace} (h : Run c d t) {k : Service}
    (rides : d.riding = some k) :
    ∃ r, d.slots.request? k = some r ∧ t.sent = some (d.frameOf r).encode := by
  obtain ⟨out, kept, carries⟩ := Option.bind_eq_some_iff.1 rides
  obtain ⟨r, ticket, same⟩ := h.carries out k kept carries
  have sent := (h.kept out kept).2
  rw [same] at sent
  exact ⟨r, ticket, sent⟩

end Device

/-! ## Requests about parameters -/

def Service.parameters : List Service := [.setIdent, .getIdent, .setCom, .getCom]

/-- What a request about parameters comes to if its frame carried `payload`. -/
inductive Store.Honours (payload : Octets) (after : Store) : Service → Outcome → Prop
  | setIdent (stored : after.ident.encode = payload) : Honours payload after .setIdent (.ok none)
  | getIdent : Honours payload after .getIdent (.ok (some payload))
  | setCom (stored : after.com.encode = payload) : Honours payload after .setCom (.ok none)
  | getCom : Honours payload after .getCom (.ok (some payload))

theorem Device.honours_completion (d : Device) {r : Request} (about : r.kind ∈ Service.parameters) :
    (d.completion r).2.store.Honours (d.payload r) r.kind (d.completion r).1 := by
  obtain ⟨kind, content⟩ := r
  cases kind with
  | setIdent => exact .setIdent rfl
  | getIdent => exact .getIdent
  | setCom => exact .setCom rfl
  | getCom => exact .getCom
  | _ => contradiction

namespace Session

open Device

/-! ## The frame and its answer -/

variable {σ : Type} [Transceiver σ] [Application σ]

/-- In every run the frame in flight is the one that the device would make now, and the transceiver
took it last. So a request about parameters that a valid answer completes comes to what went over
the wire: the octets that are confirmed, or that the parameters stored are encoded to, are those
of the frame. -/
theorem Reach.kept_frame_current {s : Session σ} (h : Reach s) :
    (∀ out, s.device.inFlight = some out →
      s.device.Builds out ∧ s.env.trace.sent = some out.frame.encode) ∧
    ∀ now, ∃ new, (s.tick now).env.trace.completions = new ++ s.env.trace.completions ∧
      ∀ kind outcome, (kind, outcome) ∈ new → kind ∈ Service.parameters →
        ∃ payload, s.env.trace.sent = some (DeviceFrame.service kind payload).encode ∧
          (s.tick now).device.store.Honours payload kind outcome := by
  obtain ⟨c, -, run⟩ := h.run
  have sent := Trace.sent_bare s.env.trace
  refine ⟨fun out kept => ⟨run.builds kept, ?_⟩, fun now => ?_⟩
  · rw [← sent]
    exact (run.kept out kept).2
  rcases h.completions_tick now with same | ⟨mode, output, c, link, completes, one⟩
  · exact ⟨[], same, nofun⟩
  refine ⟨[c], one, fun kind outcome mem about => ?_⟩
  obtain rfl := List.mem_singleton.1 mem
  cases completes with
  | carried rides ticket store =>
    rename_i request
    obtain ⟨r, found, last⟩ := run.sent_rider rides
    obtain rfl : r = request := Option.some.inj (found.symm.trans ticket)
    obtain rfl : r.kind = kind := Slots.kind_of_request? ticket
    have service : r.kind ∈ Service.outOfCycle := by
      generalize r.kind = k at about
      revert k
      decide
    refine ⟨s.device.payload r, ?_, ?_⟩
    · rw [← frameOf_service _ service, ← sent]
      exact last
    · rw [store]
      exact ((s.enterTick now).device.succeeded mode output).honours_completion about

end Session

/-! ## A request under way -/

namespace Bench

open Session

/-- A device that has sent its identification on request. The answer has come. -/
def asked : Session Bench := linked.getIdent.2.tick 3000

theorem reach_asked : Reach asked := (reach_linked.submit ⟨.getIdent, ()⟩ nofun).tick 3000

end Bench

theorem Session.kept_frame_current_asked :
    Session.Reach Bench.asked ∧
      ∃ payload, Bench.asked.env.trace.sent = some (DeviceFrame.service .getIdent payload).encode ∧
        (Bench.asked.tick 4000).env.trace.completions = [(.getIdent, .ok (some payload))] := by
  have reach := Bench.reach_asked
  have before : Bench.asked.env.trace.completions.map Prod.fst = [] := by decide +kernel
  have after : (Bench.asked.tick 4000).env.trace.completions.map Prod.fst = [.getIdent] := by
    decide +kernel
  obtain ⟨new, completed, honoured⟩ := reach.kept_frame_current.2 4000
  obtain ⟨⟨_, outcome⟩, one, rfl⟩ := List.map_eq_singleton_iff.1 after
  rw [one, List.map_eq_nil_iff.1 before, List.append_nil] at completed
  subst completed
  obtain ⟨payload, sent, honours⟩ := honoured .getIdent outcome List.mem_cons_self (by decide)
  cases honours
  exact ⟨reach, payload, sent, one⟩

end Sdci
