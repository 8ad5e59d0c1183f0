import Sdci.Proofs.Delay.Session
import Sdci.Proofs.Isolation

/-! # Only time differences matter

A device never looks at the time itself. If every tick comes a while later, and the requests and the
answers of the host are the same, then the device does the same, and waits for the same things that
while later. So it does not matter how long the clock has been running when the device is made.

* `Session.Call.Lags`: the same call a while later.
* `Session.Lags.calls`: any calls a while later.
* `Session.delayed_run_agrees`: all that can be seen of the two runs.
-/

namespace Sdci
set_option autoImplicit false

/-- A call of the transceiver or of the application. -/
def Event.isHostCall : Event → Bool
  | polled _ => true
  | modeSet _ _ => true
  | transferred _ _ => true
  | e => e.isUpcall

namespace Trace

/-- The calls of the transceiver and the application with their answers, latest first. -/
def hostCalls (t : Trace) : Trace := t.filter Event.isHostCall

/-- No call of the host tells the time. -/
theorem hostCalls_delay (lag : Nat) (t : Trace) :
    hostCalls (t.map (Event.delay lag)) = hostCalls t := by
  induction t with
  | nil => rfl
  | cons e t ih =>
    unfold hostCalls at ih ⊢
    rw [List.map_cons, List.filter_cons, List.filter_cons, ih]
    cases e <;> rfl

end Trace

namespace Session

variable {σ τ : Type} {R : σ → τ → Prop} {lag : Nat}

/-- The same call a while later. What else happens to the hosts leaves them related. -/
inductive Call.Lags (R : σ → τ → Prop) (lag : Nat) : Call σ → Call τ → Prop
  | submit (r : Request) : Lags R lag (.submit r) (.submit r)
  | mapHost {f : σ → σ} {g : τ → τ} (kept : ∀ a b, R a b → R (f a) (g b)) :
      Lags R lag (.mapHost f) (.mapHost g)
  | tick (now : Nat) : Lags R lag (.tick now) (.tick (now + lag))

theorem lags_create {id : DeviceId} {config : Config} {a : σ} {b : τ} {s : Session σ}
    {t : Session τ} (related : R a b) (made : create id config a = .ok s)
    (made' : create id config b = .ok t) : s.Lags R lag t := by
  unfold create at made made'
  cases check : config.check with
  | error cause =>
    rw [check] at made
    cases made
  | ok =>
    rw [check] at made made'
    cases made
    cases made'
    have device : (Device.ofConfig config).Lags lag (.ofConfig config) := .intro fun _ => rfl
    have env : Env.Lags R lag { device := id, host := a } { device := id, host := b } :=
      ⟨rfl, related, rfl⟩
    exact ⟨device, env.note .created⟩

variable [Transceiver σ] [Application σ] [Transceiver τ] [Application τ]

namespace Lags

variable {s : Session σ} {t : Session τ}

theorem call (h : s.Lags R lag t) (agree : Bisimulation R) {c : Call σ} {d : Call τ}
    (later : c.Lags R lag d) : (s.call c).Lags R lag (t.call d) := by
  cases later with
  | submit r => exact (h.submit agree r).2
  | mapHost kept => exact ⟨h.device, h.env.device, kept _ _ h.env.host, h.env.trace⟩
  | tick now => exact h.tick agree now

theorem calls (h : s.Lags R lag t) (agree : Bisimulation R) {cs : List (Call σ)}
    {ds : List (Call τ)} (later : cs.Forall₂ (Call.Lags R lag) ds) :
    (s.calls cs).Lags R lag (t.calls ds) := by
  induction later generalizing s t with
  | nil => exact h
  | cons first _ ih => exact ih (h.call agree first)

end Lags

/-- Two devices with the same configuration, and hosts that give the same answers. If the second is
called as the first one, but each tick comes `lag` later, then after the same number of calls it
shows the same, has the same open requests, and its history is the same but for the times of the
ticks; in particular it has called the transceiver and the application with the same, in the same
order. Its next deadline is `lag` later. -/
theorem delayed_run_agrees (agree : Bisimulation R) {id : DeviceId} {config : Config} {a : σ}
    {b : τ} (related : R a b) {s : Session σ} {t : Session τ}
    (made : create id config a = .ok s) (made' : create id config b = .ok t)
    {cs : List (Call σ)} {ds : List (Call τ)} (later : cs.Forall₂ (Call.Lags R lag) ds) :
    let u := s.calls cs
    let v := t.calls ds
    (v.link = u.link ∧ v.mode = u.mode ∧ v.outstanding = u.outstanding) ∧
    (v.device.images = u.device.images ∧ v.device.store = u.device.store ∧
      v.device.tally = u.device.tally ∧ v.device.cycles = u.device.cycles) ∧
    (v.env.trace = u.env.trace.map (Event.delay lag) ∧
      v.env.trace.hostCalls = u.env.trace.hostCalls ∧ R u.env.host v.env.host) ∧
    v.nextDeadline = u.nextDeadline.map (· + lag) := by
  intro u v
  have ⟨device, env⟩ : u.Lags R lag v := (lags_create related made made').calls agree later
  have mode : v.mode = u.mode := by
    rw [Session.mode, device.line]
    rfl
  have deadline : v.nextDeadline = u.nextDeadline.map (· + lag) := by
    rw [nextDeadline, device.line]
    exact Timers.nextDeadline_delay _
  refine ⟨⟨device.link, mode, device.alike.openKinds⟩,
    ⟨device.images, device.store, device.tally, device.cycles⟩, ⟨env.trace, ?_, env.host⟩, deadline⟩
  rw [env.trace, Trace.hostCalls_delay]

/-- A device that is made after an hour goes to COM1 as one that is made at once does. -/
theorem delayed_run_agrees_linked :
    let asked : Call Bench := .submit ⟨.setMode, .com1⟩
    let first := Bench.fresh.calls [asked, .tick 1000, .tick 2000]
    let second := Bench.fresh.calls [asked, .tick 3600001000, .tick 3600002000]
    first = Bench.linked ∧ second.link = .transferring .com1 ∧
      second.env.trace.hostCalls = first.env.trace.hostCalls ∧
      first.nextDeadline = some 12000 ∧ second.nextDeadline = some 3600012000 := by
  intro asked first second
  have made : create ⟨1⟩ {} ({} : Bench) = .ok Bench.fresh := rfl
  have later : List.Forall₂ (Call.Lags Eq 3600000000) [asked, .tick 1000, .tick 2000]
      [asked, .tick 3600001000, .tick 3600002000] :=
    .cons (.submit _) (.cons (.tick 1000) (.cons (.tick 2000) .nil))
  obtain ⟨⟨link, -⟩, -, ⟨-, calls, -⟩, deadline⟩ :=
    delayed_run_agrees .refl rfl made made later
  have due : first.nextDeadline = some 12000 := by decide +kernel
  have up : first.link = .transferring .com1 := by decide +kernel
  exact ⟨rfl, link.trans up, calls, due, deadline.trans (congrArg _ due)⟩

end Session

end Sdci
