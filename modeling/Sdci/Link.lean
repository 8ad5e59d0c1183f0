import Sdci.Mode

/-! # The link

The state of the link between device and master, and what happens to it.

* `Link.next`: the state after an event; an event without a transition keeps the state.
* `Link.mode?`: the mode of an established link.
* `Link.available`: whether requests that need a link are taken.
* `Link.idle`: whether a mode switch may start.
-/

namespace Sdci
set_option autoImplicit false

inductive Link
  /-- SIO, no communication. -/
  | inactive
  /-- An accepted mode switch awaits its confirmation. -/
  | switching (target : Mode)
  /-- Communicating, ready for the next exchange. -/
  | active (mode : Mode)
  /-- An exchange is in progress. -/
  | transferring (mode : Mode)
  /-- Communication has stopped; only a new mode switch leaves this state. -/
  | fault
  deriving DecidableEq

namespace Link

inductive Event
  | modeSetAccepted (mode : Mode)
  | modeConfirmed (mode : Mode)
  | modeSwitchTimeout
  | transferAccepted
  | transferSucceeded
  | recoverableError
  | fatalError
  deriving DecidableEq

def next : Link → Event → Link
  | _, .fatalError => fault
  | inactive, .modeSetAccepted target
  | active _, .modeSetAccepted target
  | fault, .modeSetAccepted target => switching target
  | switching target, .modeConfirmed mode =>
    if mode = target then if mode.active then active mode else inactive else fault
  | switching _, .modeSwitchTimeout => fault
  | active mode, .transferAccepted => transferring mode
  | transferring mode, .transferSucceeded
  | transferring mode, .recoverableError => active mode
  | state, _ => state

def mode? : Link → Option Mode
  | active mode | transferring mode => some mode
  | _ => none

def available : Link → Bool
  | active _ | transferring _ => true
  | switching target => target.active
  | inactive | fault => false

def idle : Link → Bool
  | inactive | active _ | fault => true
  | _ => false

def isTransferring : Link → Bool
  | transferring _ => true
  | _ => false

/-- The mode whose limits hold for a request made now. -/
def effectiveMode : Link → Mode
  | switching target => target
  | active mode | transferring mode => mode
  | inactive | fault => .inactive

/-! ## Texts -/

def text : Link → String
  | inactive => "Inactive"
  | switching target => "ModeSwitching(" ++ target.text ++ ")"
  | active mode => "Active(" ++ mode.text ++ ")"
  | transferring mode => "Transferring(" ++ mode.text ++ ")"
  | fault => "Fault"

def Event.text : Event → String
  | modeSetAccepted mode => "ModeSetAccepted(" ++ mode.name ++ ")"
  | modeConfirmed mode => "ModeConfirmed(" ++ mode.name ++ ")"
  | modeSwitchTimeout => "ModeSwitchTimeout"
  | transferAccepted => "TransferAccepted"
  | transferSucceeded => "TransferSucceeded"
  | recoverableError => "RecoverableError"
  | fatalError => "FatalError"

end Link

end Sdci
