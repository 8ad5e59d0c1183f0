import Sdci.Control
import Sdci.Link
import Sdci.Service
import Sdci.Timer

/-! # Diagnostic messages

Everything a device writes to its diagnostic log, as data. A message decides its severity, the
layer it comes from and its wording.

* `Message.level`, `Message.layer`, `Message.text`.
* `Record`: a message of one device, and `Record.line`, the line it makes in the log.
-/

namespace Sdci
set_option autoImplicit false

/-! ## Devices and layers -/

structure DeviceId where
  number : UInt8
  deriving DecidableEq

def DeviceId.text (d : DeviceId) : String := "dev" ++ toString d.number.toNat

inductive Layer
  /-- The line driver and the timers. -/
  | physical
  /-- The link, and everything that belongs to no other layer. -/
  | dataLink
  /-- Process data, control codes and parameter access. -/
  | application
  /-- The collection of devices. -/
  | registry
  deriving DecidableEq

def Layer.name : Layer → String
  | physical => "PL"
  | dataLink => "DL"
  | application => "AL"
  | registry => "Registry"

/-- Where a record comes from. -/
def originText (device : DeviceId) (layer : String) : String :=
  "device=" ++ device.text ++ ", layer=" ++ layer

inductive Level
  | error
  | warn
  | info
  | debug
  | trace
  deriving DecidableEq

def Level.name : Level → String
  | error => "ERROR"
  | warn => "WARN"
  | info => "INFO"
  | debug => "DEBUG"
  | trace => "TRACE"

/-! ## What the transceiver reports -/

inductive Indication
  /-- An accepted mode switch has taken effect. -/
  | modeSwitched (mode : Mode)
  /-- An accepted transfer is over; the frame is the master's. -/
  | transferComplete (frame : Octets)
  /-- An accepted transfer failed on the wire. -/
  | transferFailed (fault : LineFault)
  /-- The line driver itself is at fault. -/
  | hardwareFault
  deriving DecidableEq

def Indication.text : Indication → String
  | modeSwitched mode => "ModeSwitched(" ++ mode.name ++ ")"
  | transferComplete frame => "TransferComplete(" ++ Text.numbers frame ++ ")"
  | transferFailed fault => "TransferFailed(" ++ fault.name ++ ")"
  | hardwareFault => "HardwareFault"

/-! ## Messages -/

inductive Message
  -- the line
  | modeAccepted (mode : Mode)
  | modeRefused (mode : Mode)
  | sent (frame : Octets) (accepted : Bool)
  | indicated (indication : Indication)
  | unrequestedMode (confirmed : Mode) (requested : Option Mode)
  | timerStarted (timer : Timer) (duration : UInt32)
  -- process data, control codes, parameters
  | outputRejected (data : Octets)
  | outputNotStored (cause : Failure)
  | accessFailed (index : UInt16) (subindex : UInt8) (cause : Failure)
  | controlSuperseded (previous code : Control)
  | controlAcknowledged (code : Control)
  | controlRefused (code : Control)
  -- the link
  | created
  | requestAccepted (kind : Service) (link : Link)
  | requestRejected (kind : Service) (cause : Failure)
  | moved (source target : Link) (event : Link.Event)
  | eventUnacknowledged
  | completionIgnored (link : Link)
  | failureIgnored (fault : LineFault) (link : Link)
  | confirmationIgnored (mode : Mode) (link : Link)
  | timerIgnored (timer : Timer) (link : Link)
  | received (frame : Octets)
  | switchTimedOut (target : Mode)
  | cycleTimedOut
  | wrongMode (confirmed target : Mode)
  | linkEstablished (mode : Mode) (input output : Nat)
  | outputTooLong (length limit : Nat)
  | accessIgnored (index : UInt16) (subindex : UInt8)
  | eventDelivered (code : UInt16)
  | retrying (cause : Failure) (count limit : UInt8)
  | retriesExhausted (cause : Failure)
  | enteringFault (link : Link) (cause : Failure)
  | servedLocally (kind : Service)
  | switchingTo (target : Mode)
  | resending (attempt : Nat)
  | transceiverBusy
  | inputTooLong (length : Nat)
  -- the collection of devices
  | alreadyRegistered
  | registered
  | removed
  deriving DecidableEq

namespace Message

def layer : Message → Layer
  | modeAccepted _ | modeRefused _ | sent _ _ | indicated _ | unrequestedMode _ _
  | timerStarted _ _ => .physical
  | outputRejected _ | outputNotStored _ | accessFailed _ _ _ | controlSuperseded _ _
  | controlAcknowledged _ | controlRefused _ => .application
  | alreadyRegistered | registered | removed => .registry
  | _ => .dataLink

def level : Message → Level
  | wrongMode _ _ | outputTooLong _ _ | retriesExhausted _ | enteringFault _ _ => .error
  | modeRefused _ | unrequestedMode _ _ | outputNotStored _ | controlSuperseded _ _
  | requestRejected _ _ | completionIgnored _ | failureIgnored _ _ | confirmationIgnored _ _
  | timerIgnored _ _ | switchTimedOut _ | cycleTimedOut | accessIgnored _ _ | retrying _ _ _
  | inputTooLong _ | alreadyRegistered => .warn
  | controlAcknowledged _ | created | moved _ _ _ | linkEstablished _ _ _ | switchingTo _
  | registered | removed => .info
  | modeAccepted _ | outputRejected _ | accessFailed _ _ _ | controlRefused _
  | requestAccepted _ _ | eventUnacknowledged | eventDelivered _ | servedLocally _
  | resending _ => .debug
  | sent _ _ | indicated _ | timerStarted _ _ | received _ | transceiverBusy => .trace

/-- A parameter address, as `0x0010.1`. -/
def address (index : UInt16) (subindex : UInt8) : String :=
  Text.word index ++ "." ++ toString subindex.toNat

def requestedText : Option Mode → String
  | some mode => "Some(" ++ mode.name ++ ")"
  | none => "None"

def text : Message → String
  | modeAccepted mode => "Mode switch to " ++ mode.text ++ " accepted"
  | modeRefused mode => "Transceiver refused mode " ++ mode.text
  | sent frame accepted =>
    "TX " ++ Text.octets frame ++ " accepted=" ++ (if accepted then "true" else "false")
  | indicated indication => "Indication " ++ indication.text
  | unrequestedMode confirmed requested =>
    "Mode " ++ confirmed.text ++ " confirmed but " ++ requestedText requested ++ " was requested"
  | timerStarted timer duration =>
    "Timer " ++ timer.name ++ " started (" ++ toString duration.toNat ++ " us)"
  | outputRejected data => "Application rejected output image " ++ Text.octets data
  | outputNotStored cause => "Could not store output image: " ++ cause.name
  | accessFailed index subindex cause =>
    "Parameter " ++ address index subindex ++ " access failed: " ++ cause.name
  | controlSuperseded previous code =>
    "Control code " ++ previous.name ++ " superseded by " ++ code.name ++ " before acknowledgement"
  | controlAcknowledged code => "Control code " ++ code.name ++ " acknowledged"
  | controlRefused code =>
    "Control code " ++ code.name ++ " not accepted, offering again next cycle"
  | created => "Device created"
  | requestAccepted kind link => kind.name ++ " request accepted in " ++ link.text
  | requestRejected kind cause => kind.name ++ " request rejected: " ++ cause.text
  | moved source target event => source.text ++ " -> " ++ target.text ++ " (" ++ event.text ++ ")"
  | eventUnacknowledged => "Event confirmation not acknowledged by the application"
  | completionIgnored link => "Ignoring transfer completion in state " ++ link.text
  | failureIgnored fault link =>
    "Ignoring transfer failure (" ++ fault.name ++ ") in state " ++ link.text
  | confirmationIgnored mode link =>
    "Ignoring mode confirmation " ++ mode.text ++ " in state " ++ link.text
  | timerIgnored timer link => "Ignoring stale " ++ timer.name ++ " timer in state " ++ link.text
  | received frame => "RX " ++ Text.octets frame
  | switchTimedOut target =>
    "No confirmation of mode " ++ target.text ++ " before the switch timer expired"
  | cycleTimedOut => "MaxCycleTime exceeded without a successful exchange"
  | wrongMode confirmed target =>
    "Transceiver confirmed mode " ++ confirmed.text ++ " while " ++ target.text ++ " was requested"
  | linkEstablished mode input output =>
    "Link established in " ++ mode.text ++ " (PD in " ++ toString input ++ " / out " ++
      toString output ++ " octets)"
  | outputTooLong length limit =>
    "Master sent " ++ toString length ++ " output octets, " ++ toString limit ++ " negotiated"
  | accessIgnored index subindex =>
    "Parameter request " ++ address index subindex ++ " ignored, previous answer not yet sent"
  | eventDelivered code => "Event " ++ Text.word code ++ " delivered"
  | retrying cause count limit =>
    cause.name ++ ", retry " ++ toString count.toNat ++ "/" ++ toString limit.toNat
  | retriesExhausted cause => "Retries exhausted after " ++ cause.name
  | enteringFault link cause => "Entering fault from " ++ link.text ++ ": " ++ cause.text
  | servedLocally kind => kind.name ++ " served locally"
  | switchingTo target => "Switching to " ++ target.text
  | resending attempt => "Re-sending frame (attempt " ++ toString attempt ++ ")"
  | transceiverBusy => "Transceiver busy, frame deferred to the next tick"
  | inputTooLong length => "PD in update of " ++ toString length ++ " octets no longer fits"
  | alreadyRegistered => "Device already exists"
  | registered => "Device registered"
  | removed => "Device removed"

end Message

/-- A message of one device. -/
structure Record where
  device : DeviceId
  message : Message
  deriving DecidableEq

def Record.line (r : Record) : String :=
  r.message.level.name ++ " [" ++ originText r.device r.message.layer.name ++ "] " ++
    r.message.text

end Sdci
