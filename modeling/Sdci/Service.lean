import Sdci.Octets
import Sdci.Failure

/-! # Services

The nine kinds of request a device serves. Confirmations carry no token, so a device keeps at most
one request of each kind.

* `Service.all`: every kind, in the order in which requests are reported and failed.
* `Service.outOfCycle`: the kinds that travel as service frames, most urgent first.
* `Service.needsLink`: the kinds that only an established link can complete.
* `Outcome`: how a request ended, with the octets it returns.
-/

namespace Sdci
set_option autoImplicit false

inductive Service
  | setMode
  | getMode
  | setIdent
  | getIdent
  | setCom
  | getCom
  /-- An update of the input process data. -/
  | input
  | event
  /-- The answer to a parameter access of the master. -/
  | access
  deriving DecidableEq

namespace Service

def all : List Service :=
  [setMode, getMode, setIdent, getIdent, setCom, getCom, input, event, access]

def outOfCycle : List Service := [event, access, setIdent, getIdent, setCom, getCom]

/-- The six-bit code in the header of a service frame. -/
def code : Service → UInt8
  | setMode => 1
  | getMode => 2
  | setIdent => 3
  | getIdent => 4
  | setCom => 5
  | getCom => 6
  | input => 7
  | event => 8
  | access => 9

def ofCode? (c : UInt8) : Option Service := all.find? (·.code == c)

def needsLink : Service → Bool
  | input | event | access => true
  | _ => false

def name : Service → String
  | setMode => "SetMode"
  | getMode => "GetMode"
  | setIdent => "SetIdent"
  | getIdent => "GetIdent"
  | setCom => "SetCom"
  | getCom => "GetCom"
  | input => "Transfer"
  | event => "Event"
  | access => "Isdu"

def named? (s : String) : Option Service := all.find? (·.name == s)

theorem mem_all (k : Service) : k ∈ all := by cases k <;> decide

@[simp] theorem ofCode?_code (k : Service) : ofCode? k.code = some k := by cases k <;> rfl

end Service

/-- The end of a request: success, possibly with octets, or a failure. -/
abbrev Outcome := Except Failure (Option Octets)

end Sdci
