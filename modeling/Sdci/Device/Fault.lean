import Sdci.Device.State

/-! # Failed exchanges and the fault state

* `Session.enterFault`: communication stops and every open request fails with the cause.
* `Session.recover`: a recoverable failure of an exchange. The frame is kept for another attempt
  while the retry limit allows one; then the link faults.
-/

namespace Sdci.Session
set_option autoImplicit false

variable {σ : Type} [Application σ]

def enterFault (s : Session σ) (cause : Failure) : Session σ :=
  ((((s.note (.enteringFault s.device.link cause)).update Device.abandon).update
    fun d => { d with tally := d.tally.faulted }).advance .fatalError).failWhere cause fun _ => true

/-- The bookkeeping of a failed exchange, up to the question whether to try again. -/
def failExchange (s : Session σ) (cause : Failure) : Session σ :=
  let s := (s.update fun d => { d with tally := d.tally.failed cause }).advance .recoverableError
  { s with env := s.env.cycle }

def recover (s : Session σ) (cause : Failure) : Session σ :=
  let again := s.device.retries.left
  let s := (s.failExchange cause).update fun d => { d with retries := d.retries.fail }
  if again then
    (s.update fun d => { d with tally := d.tally.retried }).note
      (.retrying cause s.device.retries.count s.device.retries.limit)
  else (s.note (.retriesExhausted cause)).enterFault cause

/-! ## Neither starts a timer -/

@[simp] theorem line_enterFault (s : Session σ) (cause : Failure) :
    (s.enterFault cause).device.line = s.device.line.stopAllTimers := by
  simp [enterFault, device_advance, Device.abandon]

@[simp] theorem line_failExchange (s : Session σ) (cause : Failure) :
    (s.failExchange cause).device.line = s.device.line := by
  simp [failExchange, device_advance]

theorem line_recover (s : Session σ) (cause : Failure) :
    (s.recover cause).device.line = s.device.line ∨
      (s.recover cause).device.line = s.device.line.stopAllTimers := by
  unfold recover
  dsimp only
  split
  · exact Or.inl (by simp)
  · exact Or.inr (by simp)

end Sdci.Session
