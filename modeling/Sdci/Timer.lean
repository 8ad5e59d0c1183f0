/-! # Timers

A timer is a deadline held against the time that each tick brings along; nothing sleeps. A device
has three, each running at most once. Times are natural numbers, so a deadline is never too large to
be held; clocks of 64 bits, and deadlines above 2^64 - 1 with them, are left out.

* `Timers.start`, `Timers.stop`, `Timers.stopAll`: `start` replaces a running instance.
* `Timers.due?`: the running timer to be served first at a given time, the one with the earliest
  deadline; of equal deadlines the first in `Timer.all`.
* `Timers.expire`: hands that timer out and stops it, so that an instance expires once.
* `Timers.nextDeadline`: the earliest deadline of all.
-/

namespace Sdci
set_option autoImplicit false

inductive Timer
  /-- Supervises a mode switch until the transceiver confirms it. -/
  | modeSwitch
  /-- Supervises one exchange. -/
  | transfer
  /-- Supervises the time between successful exchanges. -/
  | maxCycle
  deriving DecidableEq

namespace Timer

def all : List Timer := [modeSwitch, transfer, maxCycle]

def name : Timer → String
  | modeSwitch => "ModeSwitch"
  | transfer => "Transfer"
  | maxCycle => "MaxCycle"

def named? (s : String) : Option Timer := all.find? (·.name == s)

theorem mem_all (k : Timer) : k ∈ all := by cases k <;> decide

end Timer

/-- A running instance. Times are in µs. -/
structure Running where
  started : Nat
  duration : UInt32
  deriving DecidableEq

def Running.deadline (r : Running) : Nat := r.started + r.duration.toNat

structure Timers where
  modeSwitch : Option Running := none
  transfer : Option Running := none
  maxCycle : Option Running := none
  deriving DecidableEq

namespace Timers

/-! ## Slots -/

def get (t : Timers) : Timer → Option Running
  | .modeSwitch => t.modeSwitch
  | .transfer => t.transfer
  | .maxCycle => t.maxCycle

def set (t : Timers) (k : Timer) (r : Option Running) : Timers :=
  match k with
  | .modeSwitch => { t with modeSwitch := r }
  | .transfer => { t with transfer := r }
  | .maxCycle => { t with maxCycle := r }

@[simp] theorem get_set_self (t : Timers) (k : Timer) (r : Option Running) :
    (t.set k r).get k = r := by cases k <;> rfl

@[simp] theorem get_set_ne (t : Timers) {k j : Timer} (h : j ≠ k) (r : Option Running) :
    (t.set k r).get j = t.get j := by cases k <;> cases j <;> first | rfl | exact absurd rfl h

@[ext] theorem ext_get {t u : Timers} (h : ∀ k, t.get k = u.get k) : t = u := by
  cases t; cases u
  have h₁ := h .modeSwitch
  have h₂ := h .transfer
  have h₃ := h .maxCycle
  simp only [get] at h₁ h₂ h₃
  subst h₁ h₂ h₃
  rfl

def start (t : Timers) (k : Timer) (duration : UInt32) (now : Nat) : Timers :=
  t.set k (some ⟨now, duration⟩)

def stop (t : Timers) (k : Timer) : Timers := t.set k none

def stopAll (_ : Timers) : Timers := {}

def isRunning (t : Timers) (k : Timer) : Bool := (t.get k).isSome

def deadline? (t : Timers) (k : Timer) : Option Nat := (t.get k).map Running.deadline

@[simp] theorem get_stopAll (t : Timers) (k : Timer) : t.stopAll.get k = none := by
  cases k <;> rfl

/-! ## Deadlines -/

/-- The timers of `ks` that run, each with its deadline. -/
def pending (t : Timers) (ks : List Timer) : List (Timer × Nat) :=
  ks.filterMap fun k => (t.deadline? k).map (k, ·)

/-- The entry with the smallest deadline, the first of several. -/
def earliest : List (Timer × Nat) → Option (Timer × Nat)
  | [] => none
  | e :: rest =>
    match earliest rest with
    | some e' => if e'.2 < e.2 then some e' else some e
    | none => some e

def due? (t : Timers) (now : Nat) : Option Timer :=
  (earliest ((t.pending Timer.all).filter (·.2 ≤ now))).map Prod.fst

def expire (t : Timers) (now : Nat) : Option (Timer × Timers) :=
  (t.due? now).map fun k => (k, t.stop k)

def nextDeadline (t : Timers) : Option Nat := (earliest (t.pending Timer.all)).map Prod.snd

/-! ## How many run -/

def count (t : Timers) : Nat := (Timer.all.filter t.isRunning).length

@[simp] theorem count_empty : count {} = 0 := rfl

theorem count_stop (t : Timers) {k : Timer} (h : t.isRunning k) :
    (t.stop k).count + 1 = t.count := by
  rcases t with ⟨a, b, c⟩
  cases k <;> cases a <;> cases b <;> cases c <;> simp_all [isRunning, get] <;> rfl

theorem earliest_mem {l : List (Timer × Nat)} {e : Timer × Nat} (h : earliest l = some e) :
    e ∈ l := by
  induction l generalizing e with
  | nil => simp [earliest] at h
  | cons a rest ih =>
    simp only [earliest] at h
    split at h
    · split at h
      · exact List.mem_cons_of_mem _ (ih (by simp_all))
      · simp_all
    · simp_all

/-- Only a running timer that has reached its deadline is due. -/
theorem deadline_of_due {t : Timers} {now : Nat} {k : Timer} (h : t.due? now = some k) :
    ∃ d, t.deadline? k = some d ∧ d ≤ now := by
  obtain ⟨⟨k', d⟩, he, rfl⟩ := Option.map_eq_some_iff.1 h
  obtain ⟨hm, hd⟩ := List.mem_filter.1 (earliest_mem he)
  obtain ⟨j, -, hj⟩ := List.mem_filterMap.1 hm
  obtain ⟨d', hd', hjk⟩ := Option.map_eq_some_iff.1 hj
  cases hjk
  exact ⟨d, hd', by simpa using hd⟩

theorem isRunning_of_due {t : Timers} {now : Nat} {k : Timer} (h : t.due? now = some k) :
    t.isRunning k := by
  obtain ⟨d, hd, -⟩ := deadline_of_due h
  obtain ⟨r, hr, -⟩ := Option.map_eq_some_iff.1 hd
  simp [isRunning, hr]

end Timers

end Sdci
