import Sdci.Proofs.Ledger
import Sdci.Proofs.WellFormed

/-! # The parameters of a device are valid and can be read

Parameters come into a device with its configuration, which is valid, and with requests, which are
checked when they are made and fulfilled much later, with or without a link. So what is stored can
always be read from the octets that it is written as.

* `Trace.granted`, `Trace.store`: the request of a kind that was granted last, and the parameters
  after a history.
* `Device.Deals`: what one move has to do with requests about parameters.
* `Device.Run.stored`: the history tells the parameters of a device.
* `Store.Spells`: a payload is read as what is stored, or as what is to be stored.
* `Session.Reach.parameters_readable`: the parameters of every run, and every place where they leave
  the device.
-/

namespace Sdci
set_option autoImplicit false

/-! ## Valid parameters -/

structure Store.Valid (s : Store) : Prop where
  ident : s.ident.device ≤ Ident.maxDevice
  com : s.com.check = .ok ()

theorem Store.Valid.complete {s : Store} (h : s.Valid) {r : Request} (checked : check r = .ok ()) :
    (s.complete r).2.Valid := by
  obtain ⟨kind, content⟩ := r
  cases kind with
  | setIdent => exact ⟨Ident.check_ok_iff.1 checked, h.com⟩
  | setCom => exact ⟨h.ident, checked⟩
  | _ => exact h

theorem Config.valid_parameters {c : Config} (valid : c.check = .ok ()) :
    Store.Valid ⟨c.ident, c.com⟩ := by
  obtain ⟨ident, com⟩ := check_parameters valid
  exact ⟨Ident.check_ok_iff.1 ident, com⟩

/-- The payload of a request about parameters is read as the value that is to be stored, or as the
one that is stored. -/
inductive Store.Spells (s : Store) (payload : Octets) : Request → Prop
  | setIdent {ident : Ident} (reads : Ident.decode payload = .ok ident) :
      Spells s payload ⟨.setIdent, ident⟩
  | getIdent (reads : Ident.decode payload = .ok s.ident) : Spells s payload ⟨.getIdent, ()⟩
  | setCom {com : Com} (reads : Com.decode payload = .ok com) : Spells s payload ⟨.setCom, com⟩
  | getCom (reads : Com.decode payload = .ok s.com) : Spells s payload ⟨.getCom, ()⟩

/-! ## Parameters in a history -/

namespace Event

/-- The request of a kind that is granted. -/
def granted? (k : Service) : Event → Option Request
  | requested r (.ok _) => if r.kind = k then some r else none
  | _ => none

/-- The kind of a request about parameters that is fulfilled. -/
def fulfilled? : Event → Option Service
  | confirmed kind (.ok _) _ => if kind ∈ Service.parameters then some kind else none
  | _ => none

/-- A request is granted, or one about parameters is fulfilled. -/
@[simp] def isDeal : Event → Bool
  | requested _ (.ok _) => true
  | confirmed kind (.ok _) _ => kind ∈ Service.parameters
  | _ => false

theorem granted?_eq_none {e : Event} (idle : e.isDeal = false) (k : Service) :
    e.granted? k = none := by
  unfold granted?
  split
  · cases idle
  · rfl

theorem fulfilled?_eq_none {e : Event} (idle : e.isDeal = false) : e.fulfilled? = none := by
  unfold fulfilled?
  split
  · exact if_neg (of_decide_eq_false idle)
  · rfl

theorem isDeal_of_isRemark {e : Event} (remark : e.isRemark = true) : e.isDeal = false := by
  cases e <;> first | rfl | cases remark

end Event

namespace Trace

open Event

/-- The request of a kind that was granted last. -/
def granted (k : Service) (t : Trace) : Option Request := t.findSome? (granted? k)

/-- The parameters after a history that began with `start`. A request that is fulfilled is the one
of its kind that was granted last, because no other can be made while it is open. -/
def store (start : Store) : Trace → Store
  | [] => start
  | e :: t =>
    (e.fulfilled?.bind (granted · t)).elim (store start t) fun r => ((store start t).complete r).2

/-- Every request that was granted had passed its check. -/
def Checked (t : Trace) : Prop := ∀ r, .requested r (.ok ()) ∈ t → Store.check r = .ok ()

variable {start : Store} {k : Service} {es t : Trace} {r : Request}

theorem granted_append (idle : es.Lacks isDeal) (k : Service) (t : Trace) :
    granted k (es ++ t) = granted k t :=
  findSome_append (fun e mem => granted?_eq_none (idle e mem) k) t

theorem store_append (idle : es.Lacks isDeal) (t : Trace) :
    store start (es ++ t) = store start t := by
  induction es with
  | nil => rfl
  | cons e es ih =>
    obtain ⟨first, rest⟩ := lacks_cons.1 idle
    rw [List.cons_append, store, fulfilled?_eq_none first]
    exact ih rest

theorem store_fulfilled (about : r.kind ∈ Service.parameters) (last : t.granted r.kind = some r)
    (x : Option Octets) (a : Bool) :
    store start (.confirmed r.kind (.ok x) a :: t) = ((store start t).complete r).2 := by
  rw [store, fulfilled?, if_pos about, Option.bind_some, last]
  rfl

theorem granted_bare (k : Service) (t : Trace) : granted k (bare t) = granted k t :=
  findSome_bare_of (fun _ remark => granted?_eq_none (isDeal_of_isRemark remark) k) t

theorem store_bare (t : Trace) : store start (bare t) = store start t := by
  induction t with
  | nil => rfl
  | cons e t ih =>
    cases remark : e.isRemark with
    | true =>
      rw [bare_cons_remark remark, store, fulfilled?_eq_none (isDeal_of_isRemark remark)]
      exact ih
    | false =>
      rw [bare_cons remark, store, store, ih]
      exact congrArg (Option.elim · _ _) (congrArg _ (funext fun k => granted_bare k t))

theorem mem_of_granted (h : t.granted k = some r) : .requested r (.ok ()) ∈ t ∧ r.kind = k := by
  obtain ⟨e, mem, same⟩ := List.exists_of_findSome?_eq_some h
  unfold granted? at same
  split at same
  · split at same
    · rename_i own
      cases same
      exact ⟨mem, own⟩
    · cases same
  · cases same

/-- A moment of a sort is the one event of this sort. -/
theorem eq_of_lacks {p : Event → Bool} {e e' : Event} {l after before : Trace} (own : p e = true)
    (later : after.Lacks p) (earlier : before.Lacks p) (h : e :: l <:+ after ++ e' :: before) :
    e = e' ∧ l = before := by
  have parts : e :: l <:+ after ++ ([e'] ++ before) := h
  obtain ⟨m, rfl, one⟩ := suffix_part own later earlier parts
  rcases List.suffix_cons_iff.1 one with whole | none
  · obtain ⟨rfl, rfl⟩ := List.cons.inj whole
    exact ⟨rfl, rfl⟩
  · cases List.suffix_nil.1 none

/-- Along a history of checked requests the parameters stay valid. -/
theorem valid_store (valid : start.Valid) (checked : t.Checked) : (store start t).Valid := by
  induction t with
  | nil => exact valid
  | cons e t ih =>
    have before := ih fun r mem => checked r (List.mem_cons_of_mem e mem)
    rw [store]
    cases fulfilled : e.fulfilled?.bind (granted · t) with
    | none => exact before
    | some r =>
      obtain ⟨k, -, last⟩ := Option.bind_eq_some_iff.1 fulfilled
      exact before.complete (checked r (List.mem_cons_of_mem e (mem_of_granted last).1))

end Trace

open Trace

theorem Confirms.dealless {cause : Failure} {ks : List Service} {es : Trace}
    (h : Confirms (.error cause) ks es) : es.Lacks Event.isDeal := by
  intro e mem
  obtain ⟨_, _, rfl⟩ := h.mem mem
  rfl

/-- The mode is no parameter. -/
theorem Confirms.dealless_mode {mode : Mode} {s : Slots} {es : Trace}
    (h : Confirms (.ok (some [mode.code])) (s.among [.setMode]) es) : es.Lacks Event.isDeal := by
  rw [Slots.among_single] at h
  split at h
  · obtain ⟨a, rfl⟩ := h.single
    simp [Service.parameters]
  · cases h
    exact lacks_nil

theorem dealless_of_upcalls {es : Trace} (h : es.Upcalls)
    (unconfirmed : ∀ e ∈ es, e.confirmation? = none) : es.Lacks Event.isDeal := by
  intro e mem
  have upcall := h e mem
  have none := unconfirmed e mem
  cases e
  case confirmed => cases none
  all_goals first | rfl | cases upcall

/-- What is not about parameters fails without a link, and leaves them alone. -/
theorem Store.serve_of_other (s : Store) {r : Request} (other : r.kind ∉ Service.parameters) :
    ∃ cause, s.serve r = (.error cause, s) := by
  obtain ⟨kind, content⟩ := r
  cases kind with
  | setIdent | getIdent | setCom | getCom => simp [Service.parameters] at other
  | _ => exact ⟨_, rfl⟩

/-- A request about parameters never fails on them. -/
theorem Store.exists_complete (s : Store) {r : Request} (about : r.kind ∈ Service.parameters) :
    ∃ x, (s.complete r).1 = .ok x := by
  obtain ⟨kind, content⟩ := r
  cases kind with
  | setIdent | getIdent | setCom | getCom => exact ⟨_, rfl⟩
  | _ => contradiction

namespace Device

/-! ## One move -/

/-- A move has nothing to do with requests about parameters, or it grants a request, or it fulfils
an open one that is about parameters. -/
inductive Deals (d u : Device) : Trace → Prop
  | none {es : Trace} (idle : es.Lacks Event.isDeal) (store : u.store = d.store) : Deals d u es
  | granted {r : Request} (admitted : d.admits r = .ok ()) (store : u.store = d.store) :
      Deals d u [.requested r (.ok ())]
  | fulfilled {r : Request} (a : Bool) {later begun : Trace} (about : r.kind ∈ Service.parameters)
      (ticket : d.slots.request? r.kind = some r) (after : later.Lacks Event.isDeal)
      (before : begun.Lacks Event.isDeal) (store : u.store = (d.store.complete r).2) :
      Deals d u (later ++ .confirmed r.kind (d.store.complete r).1 a :: begun)

/-- A request that is not about parameters leaves them alone. -/
theorem store_completion (d : Device) {r : Request} (other : r.kind ∉ Service.parameters) :
    (d.completion r).2.store = d.store := by
  obtain ⟨kind, content⟩ := r
  cases kind with
  | input =>
    unfold completion
    dsimp only
    split <;> rfl
  | setIdent | getIdent | setCom | getCom => simp [Service.parameters] at other
  | _ => rfl

theorem deals_of_settles {d u v : Device} {mode : Mode} {output : Octets} {es handed begun : Trace}
    (settles : Settles (d.succeeded mode output) es v) (after : handed.Lacks Event.isDeal)
    (before : begun.Lacks Event.isDeal) (store : u.store = v.store) :
    d.Deals u (handed ++ (es ++ begun)) := by
  have none (quiet : es.Lacks Event.isDeal) (same : v.store = d.store) :
      d.Deals u (handed ++ (es ++ begun)) :=
    .none (lacks_append.2 ⟨after, lacks_append.2 ⟨quiet, before⟩⟩) (store.trans same)
  cases settles with
  | cyclic => exact none lacks_nil rfl
  | stray => exact none lacks_nil rfl
  | carried a rides ticket =>
    rename_i kind r
    obtain rfl := Slots.kind_of_request? ticket
    by_cases about : r.kind ∈ Service.parameters
    · rw [completion_of_parameter _ about] at store ⊢
      exact .fulfilled a about ticket after before store
    · refine none (lacks_cons.2 ⟨?_, lacks_nil⟩) (store_completion _ about)
      cases ((d.succeeded mode output).completion r).1 with
      | error cause => rfl
      | ok x => exact decide_eq_false about

theorem Move.deals {p : Phase} {d u : Device} {es : Trace} (h : Move p d es u) : d.Deals u es := by
  cases h with
  | grant own granted => exact .granted granted rfl
  | establish link requested lost done =>
    exact .none (by simp [done.dealless_mode, lost.dealless]) rfl
  | exchange link decode fits settles delivers signals serves =>
    rename_i v mode frame master i₁ i₂ slots es₁ es₂ es₃ es₄
    have handed : Trace.Lacks Event.isDeal (.cycled :: (es₄ ++ (es₃ ++ es₂))) :=
      dealless_of_upcalls (List.forall_mem_cons.2
        ⟨rfl, serves.upcalls.append (signals.upcalls.append delivers.upcalls)⟩)
        (unconfirmed_handed delivers signals serves)
    have begun : Trace.Lacks Event.isDeal [.linkEvent d.link .transferSucceeded,
        .polled (some (.transferComplete frame))] := by simp
    have apart (begun : Trace) : .cycled :: (es₄ ++ (es₃ ++ (es₂ ++ (es₁ ++ begun)))) =
        .cycled :: (es₄ ++ (es₃ ++ es₂)) ++ (es₁ ++ begun) := by simp
    rw [apart]
    exact deals_of_settles settles handed begun rfl
  | retry link mishap left => exact .none (by cases mishap <;> simp) rfl
  | exhaust link mishap left failed =>
    exact .none (by cases mishap <;> simp [failed.dealless]) rfl
  | fault fatal failed => exact .none (by cases fatal <;> simp [failed.dealless]) rfl
  | switch quiet idle pending failed => exact .none (by simp [failed.dealless]) rfl
  | refuseMode a quiet idle pending failed => exact .none (by simp [failed.dealless]) rfl
  | answerMode a quiet pending => exact .none (by simp [Service.parameters]) rfl
  | serve a unhurried link next =>
    rename_i r
    obtain ⟨-, ticket⟩ := Slots.request?_of_nextOutOfCycle next
    by_cases about : r.kind ∈ Service.parameters
    · rw [d.store.serve_eq_complete about]
      exact .fulfilled a about ticket lacks_nil lacks_nil rfl
    · obtain ⟨cause, same⟩ := d.store.serve_of_other about
      rw [same]
      exact .none (by simp) rfl
  | _ => exact .none (by simp) rfl

theorem Deals.admitted {d u : Device} {es : Trace} (h : d.Deals u es) {r : Request}
    (mem : .requested r (.ok ()) ∈ es) : d.admits r = .ok () := by
  cases h with
  | none idle => cases idle _ mem
  | granted admitted =>
    cases List.mem_singleton.1 mem
    exact admitted
  | fulfilled a about ticket after before =>
    rcases List.mem_append.1 mem with later | rest
    · cases after _ later
    · cases rest with
      | tail _ begun => cases before _ begun

/-- No request is granted while there is an open one of its kind. -/
theorem Deals.granted_eq {d u : Device} {es t : Trace} (h : d.Deals u es) {k : Service}
    (isOpen : d.slots.isOpen k = true) : (es ++ t).granted k = t.granted k := by
  cases h with
  | none idle => exact granted_append idle k t
  | granted admitted store =>
    rename_i r
    have other : r.kind ≠ k := by
      rintro rfl
      cases (isOpen_of_admits admitted).symm.trans isOpen
    rw [List.singleton_append, Trace.granted, List.findSome?_cons, Event.granted?, if_neg other]
    rfl
  | fulfilled a about ticket after before =>
    rw [List.append_assoc, granted_append after, List.cons_append]
    exact granted_append before k t

/-- The history tells which requests are open, and what the parameters are. -/
structure Stored (d : Device) (t : Trace) : Prop where
  checked : t.Checked
  granted : ∀ k r, k ≠ .access → d.slots.request? k = some r → t.granted k = some r
  store : d.store = t.store ⟨d.config.ident, d.config.com⟩

theorem Stored.granted_parameter {d : Device} {t : Trace} (h : d.Stored t) {r : Request}
    (about : r.kind ∈ Service.parameters) (ticket : d.slots.request? r.kind = some r) :
    t.granted r.kind = some r := by
  refine h.granted _ r (fun own => ?_) ticket
  rw [own] at about
  contradiction

theorem Stored.store_eq {d u : Device} {es t : Trace} (h : d.Stored t) (deals : d.Deals u es) :
    u.store = (es ++ t).store ⟨d.config.ident, d.config.com⟩ := by
  cases deals with
  | none idle store => rw [store_append idle, store, h.store]
  | granted admitted store => exact store.trans h.store
  | fulfilled a about ticket after before store =>
    rename_i r later begun
    have last : (begun ++ t).granted r.kind = some r := by
      rw [granted_append before]
      exact h.granted_parameter about ticket
    have same : (begun ++ t).store ⟨d.config.ident, d.config.com⟩ = d.store := by
      rw [store_append before, h.store]
    obtain ⟨x, done⟩ := d.store.exists_complete about
    rw [store, List.append_assoc, store_append after, List.cons_append, done,
      store_fulfilled about last, same]

theorem Move.stored {p : Phase} {d u : Device} {es t : Trace} (h : Move p d es u)
    (before : d.Stored t) : u.Stored (es ++ t) := by
  have deals := h.deals
  refine ⟨fun r mem => ?_, fun k r other isOpen => ?_, ?_⟩
  · rcases List.mem_append.1 mem with new | old
    · exact check_of_admits (deals.admitted new)
    · exact before.checked r old
  · rcases h.request?_of_open isOpen other with still | ⟨-, rfl⟩
    · rw [deals.granted_eq (Slots.isOpen_of_request? still)]
      exact before.granted k r other still
    · obtain rfl := Slots.kind_of_request? isOpen
      rw [List.singleton_append, Trace.granted, List.findSome?_cons, Event.granted?, if_pos rfl]
  · rw [h.config_eq]
    exact before.store_eq deals

theorem Run.stored {c : Config} {d : Device} {t : Trace} (h : Run c d t) : d.Stored t := by
  induction h with
  | start => exact ⟨nofun, nofun, rfl⟩
  | move before last ih => exact last.stored ih

theorem Run.store_eq {c : Config} {d : Device} {t : Trace} (h : Run c d t) :
    d.store = t.store ⟨c.ident, c.com⟩ := by
  rw [← h.config_eq]
  exact h.stored.store

theorem Run.valid_store {c : Config} {d : Device} {t : Trace} (h : Run c d t)
    (valid : c.check = .ok ()) : d.store.Valid := by
  rw [h.store_eq]
  exact Trace.valid_store (Config.valid_parameters valid) h.stored.checked

/-! ## Where parameters leave the device -/

theorem spells_payload {d : Device} (valid : d.store.Valid) {r : Request}
    (about : r.kind ∈ Service.parameters) (checked : Store.check r = .ok ()) :
    d.store.Spells (d.payload r) r := by
  obtain ⟨kind, content⟩ := r
  cases kind with
  | setIdent => exact .setIdent (Ident.decode_encode (Ident.check_ok_iff.1 checked))
  | getIdent => exact .getIdent (Ident.decode_encode valid.ident)
  | setCom => exact .setCom (Com.decode_encode checked)
  | getCom => exact .getCom (Com.decode_encode valid.com)
  | _ => contradiction

/-- A request about parameters that is confirmed with success comes to what the parameters of the
moment say. -/
theorem Run.fulfilled {c : Config} {d : Device} {t before : Trace} (h : Run c d t) {k : Service}
    {x : Option Octets} {a : Bool} (about : k ∈ Service.parameters)
    (latest : .confirmed k (.ok x) a :: before <:+ t) :
    ∃ r, r.kind = k ∧ ((before.store ⟨c.ident, c.com⟩).complete r).1 = .ok x := by
  induction h with
  | start => cases List.suffix_nil.1 latest
  | move earlier last ih =>
    rename_i p d u es t
    have deal : (Event.confirmed k (.ok x) a).isDeal = true := decide_eq_true about
    rcases suffix_append latest with old | ⟨m, rfl, within⟩
    · exact ih old
    cases last.deals with
    | none idle => cases (idle _ (within.subset List.mem_cons_self)).symm.trans deal
    | granted =>
      rcases List.suffix_cons_iff.1 within with whole | none
      · cases whole
      · cases List.suffix_nil.1 none
    | fulfilled b own ticket after begun store =>
      rename_i r later first
      obtain ⟨same, rfl⟩ := eq_of_lacks deal after begun within
      obtain ⟨kind, outcome, -⟩ := Event.confirmed.inj same
      refine ⟨r, kind.symm, ?_⟩
      rw [store_append begun, ← earlier.store_eq]
      exact outcome.symm

/-- So its octets can be read. -/
theorem Run.readable {c : Config} {d : Device} {t before : Trace} (h : Run c d t)
    (valid : c.check = .ok ()) {k : Service} {x : Option Octets} {a : Bool}
    (latest : .confirmed k (.ok x) a :: before <:+ t) :
    (k = .getIdent → ∃ octets, x = some octets ∧
      Ident.decode octets = .ok (before.store ⟨c.ident, c.com⟩).ident) ∧
    (k = .getCom → ∃ octets, x = some octets ∧
      Com.decode octets = .ok (before.store ⟨c.ident, c.com⟩).com) := by
  have checked : before.Checked := fun r mem =>
    h.stored.checked r (latest.subset (List.mem_cons_of_mem _ mem))
  have valid := Trace.valid_store (Config.valid_parameters valid) checked
  constructor
  · rintro rfl
    obtain ⟨⟨_, content⟩, rfl, done⟩ := h.fulfilled (by decide) latest
    cases done
    exact ⟨_, rfl, Ident.decode_encode valid.ident⟩
  · rintro rfl
    obtain ⟨⟨_, content⟩, rfl, done⟩ := h.fulfilled (by decide) latest
    cases done
    exact ⟨_, rfl, Com.decode_encode valid.com⟩

/-- The frame of a request about parameters carries it, as it was granted. -/
theorem Run.spells {c : Config} {d : Device} {t before : Trace} (h : Run c d t)
    (valid : c.check = .ok ()) {frame payload : Octets} {accepted : Bool} {kind : Service}
    (offer : .transferred frame accepted :: before <:+ t)
    (read : DeviceFrame.decode frame = .ok (.service kind payload))
    (about : kind ∈ Service.parameters) :
    ∃ r, before.granted kind = some r ∧
      (before.store ⟨c.ident, c.com⟩).Spells payload r := by
  obtain ⟨v, out, run, chosen, rfl⟩ := h.chooses_of_offer offer
  have builds := run.builds_of_chosen chosen
  rw [DeviceFrame.decode_encode] at read
  cases builds with
  | cyclic => cases read
  | input => cases read
  | service mem ticket =>
    rename_i r
    cases read
    have last := run.stored.granted_parameter about ticket
    refine ⟨r, last, ?_⟩
    rw [← run.store_eq]
    exact spells_payload (run.valid_store valid) about
      (run.stored.checked r (mem_of_granted last).1)

end Device

namespace Session

open Device

variable {σ : Type} [Transceiver σ] [Application σ] {s : Session σ}

/-- In every run the parameters are valid, and they are what the history tells. An octet string is
read if and only if a valid value is written so, and is a bad parameter otherwise. So whatever a
confirmation returns, and whatever the frame of a request about parameters carries, is read as what
was stored at that moment, or as what was to be stored. -/
theorem Reach.parameters_readable (h : Reach s) :
    let start : Store := ⟨s.device.config.ident, s.device.config.com⟩
    (s.device.store.Valid ∧ s.device.store = s.env.trace.store start) ∧
    (∀ b, (∀ i, Ident.decode b = .ok i ↔ i.device ≤ Ident.maxDevice ∧ i.encode = b) ∧
      ((¬∃ i : Ident, i.device ≤ Ident.maxDevice ∧ i.encode = b) →
        Ident.decode b = .error .badParameter)) ∧
    (∀ b, (∀ c, Com.decode b = .ok c ↔ c.check = .ok () ∧ c.encode = b) ∧
      ((¬∃ c : Com, c.check = .ok () ∧ c.encode = b) → Com.decode b = .error .badParameter)) ∧
    (∀ (before : Trace) x a, .confirmed .getIdent (.ok x) a :: before <:+ s.env.trace →
      ∃ octets, x = some octets ∧ Ident.decode octets = .ok (before.store start).ident) ∧
    (∀ (before : Trace) x a, .confirmed .getCom (.ok x) a :: before <:+ s.env.trace →
      ∃ octets, x = some octets ∧ Com.decode octets = .ok (before.store start).com) ∧
    ∀ (before : Trace) frame accepted kind payload,
      .transferred frame accepted :: before <:+ s.env.trace →
      DeviceFrame.decode frame = .ok (.service kind payload) → kind ∈ Service.parameters →
        ∃ r, before.granted kind = some r ∧ (before.store start).Spells payload r := by
  obtain ⟨c, check, run⟩ := h.run
  have config : s.device.config = c := run.config_eq
  intro start
  have same : start = ⟨c.ident, c.com⟩ := by rw [← config]
  rw [same]
  refine ⟨⟨run.valid_store check, ?_⟩,
    fun b => ⟨fun i => Ident.decode_ok_iff, Ident.decode_eq_error⟩,
    fun b => ⟨fun c => Com.decode_ok_iff, Com.decode_eq_error⟩, fun before x a latest => ?_,
    fun before x a latest => ?_, fun before frame accepted kind payload offer read about => ?_⟩
  · rw [← store_bare]
    exact run.store_eq
  · rw [← store_bare]
    exact (run.readable check (suffix_bare rfl latest)).1 rfl
  · rw [← store_bare]
    exact (run.readable check (suffix_bare rfl latest)).2 rfl
  · rw [← store_bare, ← granted_bare]
    exact run.spells check (suffix_bare rfl offer) read about

end Session

/-! ## A new identification -/

namespace Bench

open Session

/-- A device that has been given an identification and has been asked for it. -/
def renamed : Session Bench :=
  (((linked.setIdent ⟨1, 0xFFFFFF, 2⟩).2.getIdent.2.tick 3000).tick 4000).tick 5000

theorem reach_renamed : Reach renamed :=
  (((((reach_linked.submit ⟨.setIdent, _⟩ nofun).submit ⟨.getIdent, ()⟩ nofun).tick 3000).tick
    4000).tick 5000)

end Bench

theorem Session.parameters_readable_renamed :
    let ident : Ident := ⟨1, 0xFFFFFF, 2⟩
    Session.Reach Bench.renamed ∧ Bench.renamed.device.store.Valid ∧
      ∃ (before : Trace) (octets : Octets) (a : Bool),
        .confirmed .getIdent (.ok (some octets)) a :: before <:+ Bench.renamed.env.trace ∧
          Ident.decode octets = .ok ident := by
  intro ident
  have reach := Bench.reach_renamed
  obtain ⟨⟨valid, -⟩, -, -, readable, -⟩ := reach.parameters_readable
  let late : Trace := Bench.renamed.env.trace.dropWhile fun e => e.fulfilled?.isNone
  have last : late.head?.bind Event.fulfilled? = some .getIdent := by decide +kernel
  have stored : (Trace.store ⟨Bench.renamed.device.config.ident,
      Bench.renamed.device.config.com⟩ late.tail).ident = ident := by decide +kernel
  have suffix : late <:+ Bench.renamed.env.trace := List.dropWhile_suffix _
  generalize late = t at last stored suffix
  obtain _ | ⟨e, before⟩ := t
  · cases last
  cases e with
  | confirmed kind outcome a =>
    cases outcome with
    | error => cases last
    | ok x =>
      obtain ⟨-, rfl⟩ : kind ∈ Service.parameters ∧ kind = .getIdent := by
        simpa [Event.fulfilled?] using last
      obtain ⟨octets, rfl, read⟩ := readable before x a suffix
      exact ⟨reach, valid, before, octets, a, suffix, read.trans (congrArg _ stored)⟩
  | _ => cases last

end Sdci
