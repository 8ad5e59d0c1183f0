import Sdci.Proofs.Exchange

/-! # What a history tells

A trace lists the latest event first, so its suffixes are the histories of earlier moments. Much of
what a device knows can be read off its history: the time, the state of the link, the frame that
the transceiver took last.

* `Trace.Lacks`: a history without events of some sort.
* `Trace.clock`, `Trace.since`: the time of the last tick, and of the latest event of some sort.
* `Trace.link`: the state that the events of the link have led to.
* `Trace.indication`: what the transceiver has reported in the present tick.
* `Trace.sent`: the frame that the transceiver took last.
-/

namespace Sdci
set_option autoImplicit false

/-! ## Latest events -/

namespace Event

def time? : Event → Option Nat
  | ticked now => some now
  | _ => none

def link? : Event → Option Link
  | linkEvent source event => some (source.next event)
  | _ => none

/-- A tick begins without a report. -/
def report? : Event → Option (Option Indication)
  | polled indication => some indication
  | ticked _ => some none
  | _ => none

/-- What reads the same with and without remarks and calls of the application. -/
def Plain {α : Type} (f : Event → Option α) : Prop :=
  ∀ e, e.isRemark = true ∨ e.isUpcall = true → f e = none

theorem plain_time : Plain time? := by
  rintro e (remark | upcall) <;> cases e <;> first | rfl | contradiction

theorem plain_link : Plain link? := by
  rintro e (remark | upcall) <;> cases e <;> first | rfl | contradiction

theorem plain_report : Plain report? := by
  rintro e (remark | upcall) <;> cases e <;> first | rfl | contradiction

theorem plain_taken : Plain taken? := by
  rintro e (remark | upcall) <;> cases e <;> first | rfl | contradiction

end Event

namespace Trace

/-- Nothing of some sort has happened. -/
def Lacks (p : Event → Bool) (es : Trace) : Prop := ∀ e ∈ es, p e = false

section Lacks

variable {p : Event → Bool}

@[simp] theorem lacks_nil : Lacks p [] := List.forall_mem_nil _

@[simp] theorem lacks_cons {e : Event} {es : Trace} :
    Lacks p (e :: es) ↔ p e = false ∧ Lacks p es := List.forall_mem_cons

@[simp] theorem lacks_append {es fs : Trace} :
    Lacks p (es ++ fs) ↔ Lacks p es ∧ Lacks p fs := List.forall_mem_append

theorem Upcalls.lacks {es : Trace} (h : es.Upcalls) (other : ∀ e, e.isUpcall = true → p e = false) :
    es.Lacks p :=
  fun e mem => other e (h e mem)

end Lacks

/-- Before the first tick the clock shows 0. -/
def clock (t : Trace) : Nat := (t.findSome? Event.time?).getD 0

def link (t : Trace) : Link := (t.findSome? Event.link?).getD .inactive

def indication (t : Trace) : Option Indication := (t.findSome? Event.report?).join

def sent (t : Trace) : Option Octets := t.findSome? Event.taken?

/-- What the clock showed at the latest event that `p` tells of. -/
def since (p : Event → Bool) : Trace → Option Nat
  | [] => none
  | e :: t => if p e then some (clock t) else since p t

section Plain

variable {α : Type} {f : Event → Option α}

theorem findSome_bare_of (h : ∀ e, e.isRemark = true → f e = none) (t : Trace) :
    (bare t).findSome? f = t.findSome? f := by
  induction t with
  | nil => rfl
  | cons e t ih =>
    cases remark : e.isRemark with
    | true =>
      rw [bare_cons_remark remark, List.findSome?_cons, h e remark]
      exact ih
    | false => rw [bare_cons remark, List.findSome?_cons, List.findSome?_cons, ih]

theorem findSome_bare (plain : Event.Plain f) (t : Trace) :
    (bare t).findSome? f = t.findSome? f :=
  findSome_bare_of (fun e remark => plain e (.inl remark)) t

theorem findSome_append {es : Trace} (none : ∀ e ∈ es, f e = none) (t : Trace) :
    (es ++ t).findSome? f = t.findSome? f := by
  rw [List.findSome?_append, List.findSome?_eq_none_iff.2 none, Option.none_or]

theorem Upcalls.findSome {es : Trace} (h : es.Upcalls) (plain : Event.Plain f) (t : Trace) :
    (es ++ t).findSome? f = t.findSome? f :=
  findSome_append (fun e mem => plain e (.inr (h e mem))) t

end Plain

theorem clock_bare (t : Trace) : clock (bare t) = clock t :=
  congrArg (·.getD 0) (findSome_bare Event.plain_time t)

theorem link_bare (t : Trace) : link (bare t) = link t :=
  congrArg (·.getD .inactive) (findSome_bare Event.plain_link t)

theorem indication_bare (t : Trace) : indication (bare t) = indication t :=
  congrArg Option.join (findSome_bare Event.plain_report t)

theorem sent_bare (t : Trace) : sent (bare t) = sent t := findSome_bare Event.plain_taken t

theorem since_bare {p : Event → Bool} (h : ∀ e, e.isRemark = true → p e = false) (t : Trace) :
    since p (bare t) = since p t := by
  induction t with
  | nil => rfl
  | cons e t ih =>
    cases remark : e.isRemark with
    | true =>
      rw [bare_cons_remark remark, since, h e remark, ih]
      rfl
    | false => rw [bare_cons remark, since, since, clock_bare, ih]

theorem Upcalls.append {es fs : Trace} (h₁ : es.Upcalls) (h₂ : fs.Upcalls) :
    (es ++ fs).Upcalls :=
  fun e mem => (List.mem_append.1 mem).elim (h₁ e) (h₂ e)

theorem Upcalls.clock {es : Trace} (h : es.Upcalls) (t : Trace) : clock (es ++ t) = clock t :=
  congrArg (·.getD 0) (h.findSome Event.plain_time t)

theorem Upcalls.link {es : Trace} (h : es.Upcalls) (t : Trace) : link (es ++ t) = link t :=
  congrArg (·.getD .inactive) (h.findSome Event.plain_link t)

theorem Upcalls.indication {es : Trace} (h : es.Upcalls) (t : Trace) :
    indication (es ++ t) = indication t :=
  congrArg Option.join (h.findSome Event.plain_report t)

theorem Upcalls.sent {es : Trace} (h : es.Upcalls) (t : Trace) : sent (es ++ t) = sent t :=
  h.findSome Event.plain_taken t

theorem since_append {p : Event → Bool} {es : Trace} (h : ∀ e ∈ es, p e = false) (t : Trace) :
    since p (es ++ t) = since p t := by
  induction es with
  | nil => rfl
  | cons e es ih =>
    rw [List.cons_append, since, h e List.mem_cons_self]
    exact ih fun x mem => h x (List.mem_cons_of_mem e mem)

/-- A moment in a history is one in the history without remarks, unless it is a remark. -/
theorem suffix_bare {e : Event} {before t : Trace} (own : e.isRemark = false)
    (latest : e :: before <:+ t) : e :: bare before <:+ bare t := by
  rw [← bare_cons own]
  exact latest.filter _

/-- A moment in the history of two stretches lies in the earlier one, or has all of it behind. -/
theorem suffix_append {e : Event} {l es t : Trace} (h : e :: l <:+ es ++ t) :
    e :: l <:+ t ∨ ∃ m, l = m ++ t ∧ e :: m <:+ es := by
  induction es with
  | nil => exact .inl h
  | cons x es ih =>
    rcases List.suffix_cons_iff.1 h with whole | earlier
    · obtain ⟨rfl, rfl⟩ := List.cons.inj whole
      exact .inr ⟨es, rfl, List.suffix_rfl⟩
    · rcases ih earlier with before | ⟨m, same, within⟩
      · exact .inl before
      · exact .inr ⟨m, same, within.trans (List.suffix_cons x es)⟩

/-- A moment of a sort that lies in one part only has all that came before this part behind it. -/
theorem suffix_part {p : Event → Bool} {e : Event} {l after part before : Trace}
    (own : p e = true) (later : after.Lacks p) (earlier : before.Lacks p)
    (h : e :: l <:+ after ++ (part ++ before)) : ∃ m, l = m ++ before ∧ e :: m <:+ part := by
  have absent {es m : Trace} (lacks : es.Lacks p) (within : e :: m <:+ es) : False :=
    Bool.false_ne_true ((lacks e (within.subset List.mem_cons_self)).symm.trans own)
  rcases suffix_append h with rest | ⟨m, -, within⟩
  · rcases suffix_append rest with old | found
    · exact (absent earlier old).elim
    · exact found
  · exact (absent later within).elim

end Trace

open Trace

/-- Once an exchange is over, nothing but the application is called. -/
theorem upcalls_exchange {d u : Device} {output : Octets} {received : Option Control}
    {access : Option Access} {i₁ i₂ : Images} {now : Nat} {slots : Slots}
    {es₁ es₂ es₃ es₄ : Trace} (settles : Settles d es₁ u)
    (delivers : Delivers output u.images es₂ i₁) (signals : Signals received i₁ es₃ i₂)
    (serves : Serves now u.slots access es₄ slots) (begun t : Trace) :
    ∃ upcalls : Trace, upcalls.Upcalls ∧
      .cycled :: (es₄ ++ (es₃ ++ (es₂ ++ (es₁ ++ begun)))) ++ t = upcalls ++ (begun ++ t) := by
  refine ⟨.cycled :: (es₄ ++ (es₃ ++ (es₂ ++ es₁))), ?_, by simp⟩
  have called := serves.upcalls.append (signals.upcalls.append
    (delivers.upcalls.append settles.upcalls))
  intro e mem
  rcases List.mem_cons.1 mem with rfl | rest
  · rfl
  · exact called e rest

theorem Link.next_modeSetAccepted {l : Link} (idle : l.idle = true) (target : Mode) :
    l.next (.modeSetAccepted target) = .switching target := by
  cases l <;> first | rfl | cases idle

namespace Device

/-! ## The clock and the link -/

/-- The history tells the time and the state of the link. -/
structure Told (d : Device) (t : Trace) : Prop where
  clock : t.clock = d.lastTick
  link : t.link = d.link

theorem Told.after {d : Device} {es t : Trace} (upcalls : es.Upcalls) (h : d.Told t) :
    d.Told (es ++ t) := by
  constructor
  · rw [upcalls.clock, h.clock]
  · rw [upcalls.link, h.link]

theorem Move.told {p : Phase} {d u : Device} {es t : Trace} (h : Move p d es u)
    (before : d.Told t) : u.Told (es ++ t) := by
  obtain ⟨clock, link⟩ := before
  cases h with
  | clock => exact ⟨rfl, link⟩
  | establish switching requested lost done =>
    rename_i mode es₁ es₂
    have confirmed : d.link.next (.modeConfirmed mode) = (d.established mode).link := by
      rw [switching]
      exact if_pos rfl
    rw [List.append_assoc]
    exact .after (done.upcalls.append lost.upcalls) ⟨clock, confirmed⟩
  | exchange transferring decode fits settles delivers signals serves =>
    rename_i v mode frame master i₁ i₂ slots es₁ es₂ es₃ es₄
    obtain ⟨upcalls, called, whole⟩ := upcalls_exchange settles delivers signals serves
      [.linkEvent d.link .transferSucceeded, .polled (some (.transferComplete frame))] t
    have succeeded : d.link.next .transferSucceeded = .active mode := by rw [transferring]; rfl
    rw [whole, settles.eq]
    exact .after called ⟨clock, succeeded⟩
  | retry transferring mishap left =>
    rename_i mode cause e
    have failed : d.link.next .recoverableError = .active mode := by rw [transferring]; rfl
    cases mishap <;> exact ⟨clock, failed⟩
  | exhaust transferring mishap left failed =>
    rename_i mode cause e es
    rw [List.append_assoc]
    refine .after failed.upcalls ?_
    cases mishap <;> exact ⟨clock, Link.next_fatalError (.active mode)⟩
  | fault fatal failed =>
    rw [List.append_assoc]
    refine .after failed.upcalls ?_
    cases fatal <;> exact ⟨clock, Link.next_fatalError d.link⟩
  | switch quiet idle pending failed =>
    rename_i ticket es
    have failed : d.Told (es ++ t) := .after failed.upcalls ⟨clock, link⟩
    exact ⟨failed.clock, Link.next_modeSetAccepted idle ticket.payload⟩
  | refuseMode acknowledged quiet idle pending failed =>
    have failed : d.Told (_ ++ t) := .after failed.upcalls ⟨clock, link⟩
    exact ⟨failed.clock, failed.link⟩
  | launch unhurried active chosen =>
    rename_i mode out
    have accepted : d.link.next .transferAccepted = .transferring mode := by rw [active]; rfl
    exact ⟨clock, accepted⟩
  | _ => exact ⟨clock, link⟩

theorem Run.told {c : Config} {d : Device} {t : Trace} (h : Run c d t) : d.Told t := by
  induction h with
  | start => exact ⟨rfl, rfl⟩
  | move before last ih => exact last.told ih

end Device

end Sdci
