import Sdci.Text
import Sdci.Failure

/-! # Wire modes

The line runs in SIO (`Mode.inactive`), where it is a plain switching signal, or at one of the
three transmission rates.

* `Mode.code`, `Mode.ofCode`: the octet of a mode and back.
* `Mode.text`, `Mode.name`: the line's label and the name in diagnostics.
-/

namespace Sdci
set_option autoImplicit false

inductive Mode
  | inactive
  | com1
  | com2
  | com3
  deriving DecidableEq

/-- An octet that names no mode. -/
structure UnknownMode where
  code : UInt8
  deriving DecidableEq

namespace UnknownMode

def text (e : UnknownMode) : String :=
  "Invalid mode code: 0x" ++ Text.lowerHex 2 e.code.toNat ++ ". Valid codes are 0x00-0x03."

def failure (_ : UnknownMode) : Failure := .badParameter

end UnknownMode

namespace Mode

def all : List Mode := [inactive, com1, com2, com3]

def active : Mode → Bool
  | inactive => false
  | _ => true

/-- Transmission rate in bit/s. -/
def baud : Mode → Nat
  | inactive => 0
  | com1 => 4800
  | com2 => 38400
  | com3 => 230400

def code : Mode → UInt8
  | inactive => 0
  | com1 => 1
  | com2 => 2
  | com3 => 3

def ofCode (c : UInt8) : Except UnknownMode Mode :=
  match all.find? (·.code == c) with
  | some m => .ok m
  | none => .error ⟨c⟩

def text : Mode → String
  | inactive => "SIO"
  | com1 => "COM1"
  | com2 => "COM2"
  | com3 => "COM3"

def name : Mode → String
  | inactive => "Inactive"
  | com1 => "Com1"
  | com2 => "Com2"
  | com3 => "Com3"

def named? (s : String) : Option Mode := all.find? (·.name == s)

@[simp] theorem ofCode_code (m : Mode) : ofCode m.code = .ok m := by cases m <;> rfl

end Mode

end Sdci
