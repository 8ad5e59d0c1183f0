import Sdci.Octets
import Sdci.Failure

/-! # Identification of a device

Vendor, device and function id. The device id has 24 bits on the wire, so a value above
`Ident.maxDevice` is no valid identification.
-/

namespace Sdci
set_option autoImplicit false

structure Ident where
  vendor : UInt16 := 0
  device : UInt32 := 0
  function : UInt16 := 0
  deriving DecidableEq

namespace Ident

def maxDevice : UInt32 := 0xFFFFFF

def check (i : Ident) : Except Failure Unit :=
  if maxDevice < i.device then .error .badParameter else .ok ()

/-- An identification from its parts, if it is valid. -/
def make (vendor : UInt16) (device : UInt32) (function : UInt16) : Except Failure Ident := do
  let i : Ident := ⟨vendor, device, function⟩
  i.check
  return i

def encode (i : Ident) : Octets := split16 i.vendor ++ split24 i.device ++ split16 i.function

def decode : Octets → Except Failure Ident
  | [v₁, v₀, d₂, d₁, d₀, f₁, f₀] => .ok ⟨join16 v₁ v₀, join24 d₂ d₁ d₀, join16 f₁ f₀⟩
  | _ => .error .badParameter

end Ident

end Sdci
