import Mathlib.Data.List.Basic
import Sdci.Proofs.Directory
import Sdci.Proofs.Identity
import Sdci.Proofs.Run.Reach
import Sdci.Registry

/-! # Devices in one registry

Each device of a registry is a device of its own. Under each id stands what would stand there if the
host had done nothing but what concerns this id, and the registry says only what the device says.

* `Session.Call`: what a host does with one device.
* `Registry.Operation`: what it does with a registry, and `Registry.perform`.
* `Registry.Operation.alone`: what one operation does to what stands under one id.
* `Registry.isolation`: what holds of a registry after any sequence of operations.
-/

namespace Sdci
set_option autoImplicit false

/-! ## One device -/

namespace Session

variable {σ : Type}

/-- What a host does with a device. -/
inductive Call (σ : Type)
  | submit (r : Request)
  | mapHost (f : σ → σ)
  | tick (now : Nat)

variable [Transceiver σ] [Application σ] (s : Session σ)

def call : Call σ → Session σ
  | .submit r => (s.submit r).2
  | .mapHost f => s.mapHost f
  | .tick now => s.tick now

def calls (cs : List (Call σ)) : Session σ := cs.foldl call s

theorem id_call (c : Call σ) : (s.call c).id = s.id := by
  cases c with
  | submit r => exact id_submit s r
  | mapHost f => exact id_mapHost s f
  | tick now => exact id_tick s now

end Session

namespace Registry

variable {σ : Type}

/-! ## Operations -/

/-- What a host does with a registry. -/
inductive Operation (σ : Type)
  | create (id : DeviceId) (config : Config) (host : σ)
  | insert (s : Session σ)
  | remove (id : DeviceId)
  | on (id : DeviceId) (c : Session.Call σ)
  | tickAll (now : Nat)

/-- What a host gets back. -/
inductive Reply (σ : Type)
  | done
  | removed (s : Session σ)
  | submitted (answer : Except Failure Unit)
  | ticked (link : Link)
  | links (links : List (DeviceId × Link))

section Operations

variable [Transceiver σ] [Application σ]

def perform (r : Registry σ) : Operation σ → Except Failure (Reply σ) × Registry σ
  | .create id config host =>
    let (answer, r) := r.create id config host
    (answer.map fun _ => .done, r)
  | .insert s =>
    let (answer, r) := r.insert s
    (answer.map fun _ => .done, r)
  | .remove id =>
    let (answer, r) := r.remove id
    (answer.map .removed, r)
  | .on id (.submit request) =>
    let (answer, r) := r.modify id (·.submit request)
    (answer.map .submitted, r)
  | .on id (.mapHost f) =>
    let (answer, r) := r.modify id fun s => ((), s.mapHost f)
    (answer.map fun _ => .done, r)
  | .on id (.tick now) =>
    let (answer, r) := r.tick id now
    (answer.map .ticked, r)
  | .tickAll now =>
    let (links, r) := r.tickAll now
    (.ok (.links links), r)

/-- The registry after a sequence of operations, the first first. -/
def run (r : Registry σ) (ops : List (Operation σ)) : Registry σ :=
  ops.foldl (fun r op => (r.perform op).2) r

theorem run_append (r : Registry σ) (ops later : List (Operation σ)) :
    r.run (ops ++ later) = (r.run ops).run later :=
  List.foldl_append

namespace Operation

/-- Whether the operation has to do with what stands under `id`. -/
def concerns (id : DeviceId) : Operation σ → Prop
  | create j _ _ => j = id
  | insert s => s.id = id
  | remove j => j = id
  | on j _ => j = id
  | tickAll _ => True

instance (id : DeviceId) : (op : Operation σ) → Decidable (op.concerns id)
  | create j _ _ => inferInstanceAs (Decidable (j = id))
  | insert s => inferInstanceAs (Decidable (s.id = id))
  | remove j => inferInstanceAs (Decidable (j = id))
  | on j _ => inferInstanceAs (Decidable (j = id))
  | tickAll _ => .isTrue trivial

/-- What the operation leaves where it has to do, and `slot` was there before. -/
def leaves (slot : Option (Session σ)) : Operation σ → Option (Session σ)
  | create id config host => slot.or (Session.create id config host).toOption
  | insert s => slot.or (some s)
  | remove _ => none
  | on _ c => slot.map (·.call c)
  | tickAll now => slot.map (·.tick now)

/-- What a host that has only the device under `id` is left with. -/
def alone (id : DeviceId) (slot : Option (Session σ)) (op : Operation σ) : Option (Session σ) :=
  if op.concerns id then op.leaves slot else slot

/-- What the operation does with a device. -/
def call? : Operation σ → Option (Session.Call σ)
  | on _ c => some c
  | tickAll now => some (.tick now)
  | _ => none

/-- What a sequence of operations does with the device under `id`. -/
def calls (id : DeviceId) (ops : List (Operation σ)) : List (Session.Call σ) :=
  (ops.filter fun op => decide (op.concerns id)).filterMap call?

end Operation

/-- What a device says to a call. -/
def answer (s : Session σ) : Session.Call σ → Reply σ
  | .submit request => .submitted (s.submit request).1
  | .mapHost _ => .done
  | .tick now => .ticked (s.tick now).link

/-- What is said to an operation where `slots` tells what stands under each id, and `ids` which
ids there are. -/
def Operation.reply (slots : DeviceId → Option (Session σ)) (ids : List DeviceId) :
    Operation σ → Except Failure (Reply σ)
  | create id config host =>
    if (slots id).isSome then .error .badParameter
    else (Session.create id config host).map fun _ => .done
  | insert s => if (slots s.id).isSome then .error .badParameter else .ok .done
  | remove id => (slots id).elim (.error .unknownDevice) fun s => .ok (.removed s)
  | on id c => (slots id).elim (.error .unknownDevice) fun s => .ok (answer s c)
  | tickAll now =>
    .ok (.links (ids.filterMap fun id => (slots id).map fun s => (id, (s.tick now).link)))

end Operations

/-! ## One operation -/

theorem rank_inj {i j : DeviceId} : Ranked.rank i = Ranked.rank j ↔ i = j := by
  constructor
  · intro same
    cases i
    cases j
    exact congrArg DeviceId.mk (UInt8.toNat_inj.1 same)
  · rintro rfl
    rfl

theorem find?_insert (d : Directory DeviceId (Session σ)) (id : DeviceId) (s : Session σ)
    (j : DeviceId) : (d.insert id s).find? j = if id = j then some s else d.find? j := by
  rw [Directory.find?_insert]
  simp only [rank_inj, eq_comm]

theorem find?_erase (d : Directory DeviceId (Session σ)) (id j : DeviceId) :
    (d.erase id).find? j = if id = j then none else d.find? j := by
  rw [Directory.find?_erase]
  simp only [rank_inj, eq_comm]

variable (r : Registry σ)

theorem insert_taken {s old : Session σ} (taken : r.devices.find? s.id = some old) :
    (r.insert s).1 = .error .badParameter ∧ (r.insert s).2.devices = r.devices := by
  simp [insert, Directory.contains, taken, note]

theorem insert_free {s : Session σ} (free : r.devices.find? s.id = none) :
    (r.insert s).1 = .ok () ∧ (r.insert s).2.devices = r.devices.insert s.id s := by
  simp [insert, Directory.contains, free, note]

theorem create_taken {id : DeviceId} {old : Session σ} (config : Config) (host : σ)
    (taken : r.devices.find? id = some old) :
    (r.create id config host).1 = .error .badParameter ∧
      (r.create id config host).2.devices = r.devices := by
  simp [create, Directory.contains, taken, note]

theorem create_invalid {id : DeviceId} {config : Config} {host : σ} {cause : Failure}
    (free : r.devices.find? id = none) (bad : Session.create id config host = .error cause) :
    r.create id config host = (.error cause, r) := by
  simp [create, Directory.contains, free, bad]

theorem create_free {id : DeviceId} {config : Config} {host : σ} {s : Session σ}
    (free : r.devices.find? id = none) (made : Session.create id config host = .ok s) :
    r.create id config host = r.insert s := by
  simp [create, Directory.contains, free, made]

theorem modify_some {α : Type} {id : DeviceId} {s : Session σ} (f : Session σ → α × Session σ)
    (found : r.devices.find? id = some s) :
    r.modify id f = (.ok (f s).1, { r with devices := r.devices.insert id (f s).2 }) := by
  simp [modify, find, found]

theorem modify_none {α : Type} {id : DeviceId} (f : Session σ → α × Session σ)
    (free : r.devices.find? id = none) : r.modify id f = (.error .unknownDevice, r) := by
  simp [modify, find, free]

theorem remove_some {id : DeviceId} {s : Session σ} (found : r.devices.find? id = some s) :
    (r.remove id).1 = .ok s ∧ (r.remove id).2.devices = r.devices.erase id := by
  simp [remove, find, found, note]

theorem remove_none {id : DeviceId} (free : r.devices.find? id = none) :
    r.remove id = (.error .unknownDevice, r) := by
  simp [remove, find, free]

variable [Transceiver σ] [Application σ]

theorem perform_on (id : DeviceId) (c : Session.Call σ) :
    r.perform (.on id c) =
      match r.devices.find? id with
      | some s => (.ok (answer s c), { r with devices := r.devices.insert id (s.call c) })
      | none => (.error .unknownDevice, r) := by
  cases found : r.devices.find? id with
  | some s => cases c <;> simp only [perform, tick, r.modify_some _ found] <;> rfl
  | none => cases c <;> simp only [perform, tick, r.modify_none _ found] <;> rfl

/-- What happens to the devices when an operation is performed. -/
inductive Effect (r : Registry σ) : Operation σ → Except Failure (Reply σ) →
    Directory DeviceId (Session σ) → Prop
  | taken {id : DeviceId} {old : Session σ} {config : Config} {host : σ}
      (there : r.devices.find? id = some old) :
      Effect r (.create id config host) (.error .badParameter) r.devices
  | invalid {id : DeviceId} {config : Config} {host : σ} {cause : Failure}
      (free : r.devices.find? id = none) (bad : Session.create id config host = .error cause) :
      Effect r (.create id config host) (.error cause) r.devices
  | created {id : DeviceId} {config : Config} {host : σ} {s : Session σ}
      (free : r.devices.find? id = none) (made : Session.create id config host = .ok s) :
      Effect r (.create id config host) (.ok .done) (r.devices.insert id s)
  | duplicate {s old : Session σ} (there : r.devices.find? s.id = some old) :
      Effect r (.insert s) (.error .badParameter) r.devices
  | inserted {s : Session σ} (free : r.devices.find? s.id = none) :
      Effect r (.insert s) (.ok .done) (r.devices.insert s.id s)
  | removed {id : DeviceId} {s : Session σ} (there : r.devices.find? id = some s) :
      Effect r (.remove id) (.ok (.removed s)) (r.devices.erase id)
  | called {id : DeviceId} {s : Session σ} {c : Session.Call σ}
      (there : r.devices.find? id = some s) :
      Effect r (.on id c) (.ok (answer s c)) (r.devices.insert id (s.call c))
  | unknown {id : DeviceId} (free : r.devices.find? id = none) :
      Effect r (.remove id) (.error .unknownDevice) r.devices
  | uncalled {id : DeviceId} {c : Session.Call σ} (free : r.devices.find? id = none) :
      Effect r (.on id c) (.error .unknownDevice) r.devices
  | ticked (now : Nat) :
      Effect r (.tickAll now)
        (.ok (.links ((r.devices.map (·.tick now)).entries.map fun e => (e.1, e.2.link))))
        (r.devices.map (·.tick now))

theorem perform_effect (op : Operation σ) :
    Effect r op (r.perform op).1 (r.perform op).2.devices := by
  cases op with
  | create id config host =>
    cases found : r.devices.find? id with
    | some old =>
      obtain ⟨said, left⟩ := r.create_taken config host found
      simp only [perform, said, left]
      exact .taken found
    | none =>
      cases built : Session.create id config host with
      | error cause =>
        simp only [perform, r.create_invalid found built]
        exact .invalid found built
      | ok s =>
        obtain rfl := Session.id_create built
        obtain ⟨said, left⟩ := r.insert_free found
        simp only [perform, r.create_free found built, said, left]
        exact .created found built
  | insert s =>
    cases found : r.devices.find? s.id with
    | some old =>
      obtain ⟨said, left⟩ := r.insert_taken found
      simp only [perform, said, left]
      exact .duplicate found
    | none =>
      obtain ⟨said, left⟩ := r.insert_free found
      simp only [perform, said, left]
      exact .inserted found
  | remove id =>
    cases found : r.devices.find? id with
    | some s =>
      obtain ⟨said, left⟩ := r.remove_some found
      simp only [perform, said, left]
      exact .removed found
    | none =>
      simp only [perform, r.remove_none found]
      exact .unknown found
  | on id c =>
    rw [perform_on]
    cases found : r.devices.find? id with
    | some s => exact .called found
    | none => exact .uncalled found
  | tickAll now => exact .ticked now

namespace Effect

variable {r} {op : Operation σ} {said : Except Failure (Reply σ)}
  {devices : Directory DeviceId (Session σ)}

/-- An operation that fails does nothing. -/
theorem unchanged {cause : Failure} (h : Effect r op (.error cause) devices) :
    devices = r.devices := by
  cases h <;> rfl

theorem ascending (h : Effect r op said devices) (before : r.devices.Ascending) :
    devices.Ascending := by
  cases h with
  | created => exact before.insert ..
  | inserted => exact before.insert ..
  | called => exact before.insert ..
  | removed => exact before.erase _
  | ticked now => exact before.map _
  | _ => exact before

theorem spares {id : DeviceId} (h : Effect r op said devices) (other : ¬ op.concerns id) :
    devices.find? id = r.devices.find? id := by
  cases h with
  | created => exact (find?_insert ..).trans (if_neg other)
  | inserted => exact (find?_insert ..).trans (if_neg other)
  | called => exact (find?_insert ..).trans (if_neg other)
  | removed => exact (find?_erase ..).trans (if_neg other)
  | ticked => exact absurd trivial other
  | _ => rfl

theorem leaves {id : DeviceId} (h : Effect r op said devices) (own : op.concerns id) :
    devices.find? id = op.leaves (r.devices.find? id) := by
  cases h with
  | taken there =>
    obtain rfl : _ = id := own
    simp [Operation.leaves, there]
  | invalid free bad =>
    obtain rfl : _ = id := own
    simp [Operation.leaves, free, bad, Except.toOption]
  | created free made =>
    obtain rfl : _ = id := own
    simp [Operation.leaves, find?_insert, free, made, Except.toOption]
  | duplicate there =>
    obtain rfl : _ = id := own
    simp [Operation.leaves, there]
  | inserted free =>
    obtain rfl : _ = id := own
    simp [Operation.leaves, find?_insert, free]
  | removed there =>
    obtain rfl : _ = id := own
    simp [Operation.leaves, find?_erase]
  | called there =>
    obtain rfl : _ = id := own
    simp [Operation.leaves, find?_insert, there]
  | unknown free =>
    obtain rfl : _ = id := own
    exact free
  | uncalled free =>
    obtain rfl : _ = id := own
    simp [Operation.leaves, free]
  | ticked now => exact Directory.find?_map ..

theorem find? (h : Effect r op said devices) (id : DeviceId) :
    devices.find? id = op.alone id (r.devices.find? id) := by
  unfold Operation.alone
  split
  · exact h.leaves ‹_›
  · exact h.spares ‹_›

/-- What is said, in terms of what stands under each id. -/
theorem reply (h : Effect r op said devices) (order : r.devices.Ascending) :
    said = op.reply r.devices.find? r.ids := by
  cases h with
  | taken there => simp [Operation.reply, there]
  | invalid free bad => simp [Operation.reply, free, bad, Except.map]
  | created free made => simp [Operation.reply, free, made, Except.map]
  | duplicate there => simp [Operation.reply, there]
  | inserted free => simp [Operation.reply, free]
  | removed there => simp [Operation.reply, there]
  | called there => simp [Operation.reply, there]
  | unknown free => simp [Operation.reply, free]
  | uncalled free => simp [Operation.reply, free]
  | ticked now =>
    have found (e : DeviceId × Session σ) (mem : e ∈ r.devices.entries) :
        ((r.devices.find? e.1).map fun s => (e.1, (s.tick now).link)) =
          some (e.1, (e.2.tick now).link) := by
      rw [order.find?_eq_some_iff.2 ⟨e.1, rfl, mem⟩, Option.map_some]
    simp only [Operation.reply, ids, Directory.keys, Directory.map, List.filterMap_map,
      Function.comp_def, List.map_map]
    rw [List.filterMap_eq_map_iff_forall_eq_some.2 found]

end Effect

/-! ## All operations -/

variable {r} (ops : List (Operation σ))

theorem ascending_run (before : r.devices.Ascending) : (r.run ops).devices.Ascending := by
  induction ops generalizing r with
  | nil => exact before
  | cons op ops ih => exact ih ((r.perform_effect op).ascending before)

/-- Under each id stands what would stand there on its own. -/
theorem find?_run (id : DeviceId) :
    (r.run ops).devices.find? id =
      ops.foldl (fun slot op => op.alone id slot) (r.devices.find? id) := by
  induction ops generalizing r with
  | nil => rfl
  | cons op ops ih =>
    rw [List.foldl_cons, ← (r.perform_effect op).find? id]
    exact ih

/-- What stands under an id, if its operations are calls only, is the device that was there after
these calls. -/
theorem foldl_alone {id : DeviceId} {s : Session σ} (kept : ∀ op ∈ ops, ¬ op = .remove id) :
    ops.foldl (fun slot op => op.alone id slot) (some s) =
      some (s.calls (Operation.calls id ops)) := by
  induction ops generalizing s with
  | nil => rfl
  | cons op ops ih =>
    have step : op.alone id (some s) = some (s.calls (Operation.calls id [op])) := by
      unfold Operation.alone Operation.calls
      split
      · rename_i own
        cases op with
        | remove j =>
          obtain rfl : j = id := own
          exact absurd rfl (kept _ List.mem_cons_self)
        | _ => simp [own, Operation.leaves, Operation.call?, Session.calls, Session.call,
            List.filterMap]
      · simp [*, Session.calls]
    rw [List.foldl_cons, step, ih fun o mem => kept o (List.mem_cons_of_mem op mem)]
    unfold Session.calls Operation.calls
    rw [← List.foldl_append, ← List.filterMap_append, ← List.filter_append]
    rfl

theorem id_leaves {id : DeviceId} {slot : Option (Session σ)} {op : Operation σ}
    (before : ∀ s ∈ slot, s.id = id) (own : op.concerns id) {s : Session σ}
    (after : op.leaves slot = some s) : s.id = id := by
  cases op with
  | create j config host =>
    obtain rfl : j = id := own
    cases slot with
    | some t => exact before s after
    | none =>
      cases made : Session.create j config host with
      | error cause => simp [Operation.leaves, made, Except.toOption] at after
      | ok t =>
        obtain rfl : t = s := by simpa [Operation.leaves, made, Except.toOption] using after
        exact Session.id_create made
  | insert t =>
    cases slot with
    | some t => exact before s after
    | none =>
      obtain rfl : t = s := Option.some.inj after
      exact own
  | remove j => cases after
  | on j c =>
    obtain ⟨t, there, rfl⟩ := Option.map_eq_some_iff.1 after
    exact (t.id_call c).trans (before t there)
  | tickAll now =>
    obtain ⟨t, there, rfl⟩ := Option.map_eq_some_iff.1 after
    exact (t.id_tick now).trans (before t there)

/-- Every device stands under its own id. -/
theorem keyed_run {id : DeviceId} (before : ∀ s ∈ r.devices.find? id, s.id = id) :
    ∀ s ∈ (r.run ops).devices.find? id, s.id = id := by
  induction ops generalizing r with
  | nil => exact before
  | cons op ops ih =>
    refine ih ?_
    rw [(r.perform_effect op).find? id, Operation.alone]
    split
    · exact fun s after => id_leaves before ‹_› after
    · exact before

/-! ## What is shown -/

section Shown

omit [Transceiver σ] [Application σ]

theorem ids_ascending (order : r.devices.Ascending) :
    r.ids.Pairwise fun i j => i.number < j.number :=
  order.keys

theorem mem_ids (order : r.devices.Ascending) {id : DeviceId} :
    id ∈ r.ids ↔ (r.devices.find? id).isSome := by
  constructor
  · intro mem
    obtain ⟨⟨j, s⟩, entry, rfl⟩ := List.mem_map.1 mem
    rw [order.find?_eq_some_iff.2 ⟨j, rfl, entry⟩]
    rfl
  · intro there
    obtain ⟨s, found⟩ := Option.isSome_iff_exists.1 there
    obtain ⟨j, same, mem⟩ := order.find?_eq_some_iff.1 found
    rw [← rank_inj.1 same]
    exact List.mem_map_of_mem mem

/-- Which devices there are, whatever their ids. -/
theorem mem_values (order : r.devices.Ascending) {s : Session σ} :
    s ∈ r.devices.values ↔ ∃ id, r.devices.find? id = some s := by
  constructor
  · intro mem
    obtain ⟨⟨j, s⟩, entry, rfl⟩ := List.mem_map.1 mem
    exact ⟨j, order.find?_eq_some_iff.2 ⟨j, rfl, entry⟩⟩
  · rintro ⟨id, found⟩
    obtain ⟨j, -, mem⟩ := order.find?_eq_some_iff.1 found
    exact List.mem_map_of_mem mem

theorem nextDeadline_eq_some_iff (order : r.devices.Ascending) {n : Nat} :
    r.nextDeadline = some n ↔
      (∃ id s, r.devices.find? id = some s ∧ s.nextDeadline = some n) ∧
        ∀ id s m, r.devices.find? id = some s → s.nextDeadline = some m → n ≤ m := by
  have listed {m : Nat} : m ∈ r.devices.values.filterMap Session.nextDeadline ↔
      ∃ id s, r.devices.find? id = some s ∧ s.nextDeadline = some m := by
    simp only [List.mem_filterMap, mem_values order]
    constructor
    · rintro ⟨s, ⟨id, found⟩, due⟩
      exact ⟨id, s, found, due⟩
    · rintro ⟨id, s, found, due⟩
      exact ⟨s, ⟨id, found⟩, due⟩
  unfold nextDeadline
  rw [List.min?_eq_some_iff, listed]
  refine and_congr_right fun _ => ⟨fun least id s m found due => ?_, fun least m due => ?_⟩
  · exact least m (listed.2 ⟨id, s, found, due⟩)
  · obtain ⟨id, s, found, due⟩ := listed.1 due
    exact least id s m found due

end Shown

/-! ## Isolation -/

/-- After any operations, the session under each id is the one it would be alone: the state of the
device, its host, and the history of its requests, confirmations and calls of the transceiver. As
long as the device is not taken out, it is what its own calls have made of it, `tickAll` being one
tick; if it is taken out and put back, it is what it was. The devices stand under their own ids,
which are in ascending order; the next deadline is the earliest of theirs. What is said to an
operation follows from what stands under the ids, and one that is refused leaves every device as
it is. -/
theorem isolation (ops : List (Operation σ)) :
    let r := run {} ops
    (∀ id, r.devices.find? id = ops.foldl (fun slot op => op.alone id slot) none) ∧
    (∀ id s later, r.devices.find? id = some s → (∀ op ∈ later, ¬ op = .remove id) →
      (r.run later).devices.find? id = some (s.calls (Operation.calls id later))) ∧
    (∀ id s between, r.devices.find? id = some s →
      (r.run (.remove id :: between)).devices.find? id = none →
      (r.run (.remove id :: between ++ [.insert s])).devices.find? id = some s) ∧
    (∀ id s, r.devices.find? id = some s → s.id = id) ∧
    (r.ids.Pairwise fun i j => i.number < j.number) ∧
    (∀ id, id ∈ r.ids ↔ (r.devices.find? id).isSome) ∧
    (∀ now, (r.tickAll now).1.map Prod.fst = r.ids) ∧
    (∀ n, r.nextDeadline = some n ↔
      (∃ id s, r.devices.find? id = some s ∧ s.nextDeadline = some n) ∧
        ∀ id s m, r.devices.find? id = some s → s.nextDeadline = some m → n ≤ m) ∧
    ∀ op, (r.perform op).1 = op.reply r.devices.find? r.ids ∧
      ∀ cause, (r.perform op).1 = .error cause → (r.perform op).2.devices = r.devices := by
  intro r
  have order : r.devices.Ascending := ascending_run ops Directory.ascending_empty
  have none (id : DeviceId) : ({} : Registry σ).devices.find? id = none := Directory.find?_empty id
  have keyed (id : DeviceId) : ∀ s, r.devices.find? id = some s → s.id = id :=
    keyed_run ops (by rw [none]; simp)
  refine ⟨fun id => (find?_run ops id).trans (by rw [none]), fun id s later found kept => ?_,
    fun id s between found free => ?_, keyed, ids_ascending order, fun id => mem_ids order,
    fun now => ?_, fun n => nextDeadline_eq_some_iff order, fun op => ?_⟩
  · rw [find?_run, found]
    exact foldl_alone later kept
  · have own : Operation.concerns id (.insert s) := keyed id s found
    rw [run_append, find?_run, free, List.foldl_cons, Operation.alone, if_pos own]
    rfl
  · simp [tickAll, ids, Directory.keys, Directory.map]
  · refine ⟨(r.perform_effect op).reply order, fun cause failed => ?_⟩
    have effect := r.perform_effect op
    rw [failed] at effect
    exact effect.unchanged

end Registry

/-! ### Two devices on the bench -/

/-- A device in SIO and one that goes to COM1. -/
def Bench.shelf : List (Registry.Operation Bench) :=
  [.create ⟨2⟩ {} {}, .create ⟨1⟩ {} {}, .on ⟨1⟩ (.submit ⟨.setMode, .com1⟩), .tickAll 1000,
    .tickAll 2000]

theorem Registry.isolation_shelf :
    let r := run {} Bench.shelf
    let away : List (Operation Bench) := [.remove ⟨1⟩, .tickAll 3000]
    r.devices.find? ⟨1⟩ = some Bench.linked ∧
    (r.run [.on ⟨2⟩ (.tick 3000), .on ⟨1⟩ (.submit ⟨.input, [1, 2]⟩), .tickAll 3000]).devices.find?
      ⟨1⟩ = some ((Bench.linked.setInput [1, 2]).2.tick 3000) ∧
    (r.run away).devices.find? ⟨1⟩ = none ∧
    (r.run (away ++ [.insert Bench.linked])).devices.find? ⟨1⟩ = some Bench.linked ∧
    (r.perform (.create ⟨1⟩ {} {})).1 = .error .badParameter ∧
    (r.perform (.create ⟨1⟩ {} {})).2.devices = r.devices := by
  intro r away
  obtain ⟨slots, calls, back, -, -, -, -, -, replies⟩ := isolation Bench.shelf
  have found : r.devices.find? ⟨1⟩ = some Bench.linked := (slots ⟨1⟩).trans rfl
  have free : (r.run away).devices.find? ⟨1⟩ = none := by
    have gone : ((r.run away).devices.find? ⟨1⟩).isNone := by decide +kernel
    exact Option.isNone_iff_eq_none.1 gone
  have there : (r.devices.find? ⟨1⟩).isSome := by
    rw [found]
    rfl
  have taken : (r.perform (.create ⟨1⟩ {} {})).1 = .error .badParameter := by
    rw [(replies _).1, Operation.reply, if_pos there]
  exact ⟨found, calls _ _ _ found (by simp), free, back _ _ _ found free, taken,
    (replies _).2 _ taken⟩

end Sdci
