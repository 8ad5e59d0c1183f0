import Sdci.Host

/-! # The line

The mode the line runs in, the mode of a switch that awaits its confirmation, and the timers.

* `Line.setMode`: asks the transceiver for a mode and remembers an accepted one.
* `Line.commit`: adopts a confirmed mode; only the requested one can be adopted.
* `Line.startTimer`: starts a timer and notes it; `Line.restartTimer` does so silently.
-/

namespace Sdci
set_option autoImplicit false

structure Line where
  mode : Mode := .inactive
  requested : Option Mode := none
  timers : Timers := {}
  deriving DecidableEq

namespace Line

variable {σ : Type}

def setMode [Transceiver σ] (l : Line) (m : Mode) (e : Env σ) : Bool × Line × Env σ :=
  let (accepted, e) := e.setMode m
  (accepted, if accepted then { l with requested := some m } else l, e)

def commit (l : Line) (m : Mode) (e : Env σ) : Bool × Line × Env σ :=
  if l.requested = some m then (true, { l with mode := m, requested := none }, e)
  else (false, l, e.note (.unrequestedMode m l.requested))

def restartTimer (l : Line) (k : Timer) (duration : UInt32) (now : Nat) : Line :=
  { l with timers := l.timers.start k duration now }

def startTimer (l : Line) (k : Timer) (duration : UInt32) (now : Nat) (e : Env σ) :
    Line × Env σ :=
  (l.restartTimer k duration now, e.note (.timerStarted k duration))

def stopTimer (l : Line) (k : Timer) : Line := { l with timers := l.timers.stop k }

def stopAllTimers (l : Line) : Line := { l with timers := l.timers.stopAll }

/-- The timer to be served at a time, and the line without it. -/
def expire (l : Line) (now : Nat) : Option (Timer × Line) :=
  (l.timers.expire now).map fun e => (e.1, { l with timers := e.2 })

end Line

end Sdci
