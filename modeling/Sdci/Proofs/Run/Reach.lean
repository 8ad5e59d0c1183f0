import Sdci.Bench
import Sdci.Device.Session

/-! # Every run of a device

What holds of a device holds of it whatever its host does: which requests it makes and when it
ticks, what its transceiver accepts and reports, what its application answers.

* `Session.Step`: one thing a host does with a device.
* `Session.Reach`: every session a device gets into from its creation on. The trace of such a
  session is its whole history.
* `Trace.bare`: a trace without the log records that only remark on the events beside them.
-/

namespace Sdci
set_option autoImplicit false

/-! ## Hosts -/

namespace Session

variable {σ : Type} [Transceiver σ] [Application σ]

/-- One thing a host does. It makes requests of every kind but `Service.access`, which only a
master can cause, and between two calls of the device it may change in any way. -/
inductive Step : Session σ → Session σ → Prop
  | tick (s : Session σ) (now : Nat) : Step s (s.tick now)
  | submit (s : Session σ) (r : Request) (own : r.kind ≠ .access) : Step s (s.submit r).2
  | mapHost (s : Session σ) (f : σ → σ) : Step s (s.mapHost f)

inductive Reach : Session σ → Prop
  | create {id : DeviceId} {config : Config} {host : σ} {s : Session σ}
      (made : create id config host = .ok s) : Reach s
  | step {s t : Session σ} (before : Reach s) (next : Step s t) : Reach t

theorem Reach.tick {s : Session σ} (h : Reach s) (now : Nat) : Reach (s.tick now) :=
  h.step (.tick s now)

theorem Reach.submit {s : Session σ} (h : Reach s) (r : Request) (own : r.kind ≠ .access) :
    Reach (s.submit r).2 :=
  h.step (.submit s r own)

end Session

/-! ## A device on the bench -/

namespace Bench

open Session

/-- A new device. -/
def fresh : Session Bench := note ⟨.ofConfig {}, { device := ⟨1⟩, host := {} }⟩ .created

/-- A device in COM1 whose first frame is on the line. -/
def linked : Session Bench := ((fresh.setMode .com1).2.tick 1000).tick 2000

/-- The same device after that exchange: the next frame carries new input data, and an event waits
for the one after it. -/
def exchanging : Session Bench := ((linked.setInput [1, 2]).2.sendEvent 7).2.tick 3000

theorem reach_fresh : Reach fresh := by
  have made : create ⟨1⟩ {} ({} : Bench) = .ok fresh := rfl
  exact .create made

theorem reach_linked : Reach linked :=
  ((reach_fresh.submit ⟨.setMode, .com1⟩ nofun).tick 1000).tick 2000

theorem reach_exchanging : Reach exchanging :=
  ((reach_linked.submit ⟨.input, [1, 2]⟩ nofun).submit ⟨.event, 7⟩ nofun).tick 3000

end Bench

/-! ## Traces without remarks -/

/-- Whether a record only remarks on an event that the trace has as well. The record of a stale
timer is the one sign of what it tells. -/
def Message.isRemark : Message → Bool
  | timerIgnored _ _ => false
  | _ => true

def Event.isRemark : Event → Bool
  | noted r => r.message.isRemark
  | _ => false

namespace Trace

def bare (t : Trace) : Trace := t.filter (!·.isRemark)

theorem bare_cons_remark {e : Event} (h : e.isRemark) (t : Trace) : bare (e :: t) = bare t := by
  simp [bare, h]

theorem bare_cons {e : Event} (h : e.isRemark = false) (t : Trace) :
    bare (e :: t) = e :: bare t := by
  simp [bare, h]

/-- What counts no remarks counts the same without them. -/
theorem countP_bare {p : Event → Bool} (h : ∀ e, e.isRemark → p e = false) (t : Trace) :
    (bare t).countP p = t.countP p := by
  induction t with
  | nil => rfl
  | cons e t ih =>
    cases he : e.isRemark with
    | true => rw [bare_cons_remark he, ih, List.countP_cons_of_neg (by simp [h e he])]
    | false => rw [bare_cons he, List.countP_cons, List.countP_cons, ih]

theorem countP_of_bare {p : Event → Bool} (h : ∀ e, e.isRemark → p e = false) {es s t : Trace}
    (trace : bare t = es ++ bare s) : t.countP p = es.countP p + s.countP p := by
  rw [← countP_bare h, trace, List.countP_append, countP_bare h]

/-- What reads nothing from remarks reads the same without them. -/
theorem filterMap_bare {α : Type} {f : Event → Option α} (h : ∀ e, e.isRemark → f e = none)
    (t : Trace) : (bare t).filterMap f = t.filterMap f := by
  induction t with
  | nil => rfl
  | cons e t ih =>
    cases he : e.isRemark with
    | true => rw [bare_cons_remark he, ih, List.filterMap_cons, h e he]
    | false => rw [bare_cons he, List.filterMap_cons, List.filterMap_cons, ih]

end Trace

end Sdci
