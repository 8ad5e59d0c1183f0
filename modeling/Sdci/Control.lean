import Sdci.Failure

/-! # Control codes

Signals of the master that ride on its frames: the validity of process data, and a request to
reset the application. Code 0 says that none was sent.
-/

namespace Sdci
set_option autoImplicit false

inductive Control
  | inputValid
  | inputInvalid
  | outputValid
  | outputInvalid
  | reset
  deriving DecidableEq

namespace Control

def all : List Control := [inputValid, inputInvalid, outputValid, outputInvalid, reset]

def code : Control → UInt8
  | inputValid => 1
  | inputInvalid => 2
  | outputValid => 3
  | outputInvalid => 4
  | reset => 5

def name : Control → String
  | inputValid => "PdInValid"
  | inputInvalid => "PdInInvalid"
  | outputValid => "PdOutValid"
  | outputInvalid => "PdOutInvalid"
  | reset => "ApplicationReset"

def named? (s : String) : Option Control := all.find? (·.name == s)

/-- The octet of a code that may be missing. -/
def encode : Option Control → UInt8
  | none => 0
  | some c => c.code

def decode (octet : UInt8) : Except Failure (Option Control) :=
  if octet = 0 then .ok none
  else match all.find? (·.code == octet) with
    | some c => .ok (some c)
    | none => .error .protocol

@[simp] theorem decode_encode (c : Option Control) : decode (encode c) = .ok c := by
  rcases c with _ | c
  · rfl
  · cases c <;> rfl

end Control

end Sdci
