import Sdci.Mode

/-! # Communication parameters

What a device tells its master about its link: the fastest mode, the shortest cycle, and how many
octets of process data it exchanges each way.
-/

namespace Sdci
set_option autoImplicit false

/-- The most process data any link carries in one direction. -/
def maxImage : Nat := 32

structure Com where
  fastest : Mode := .com2
  /-- The shortest cycle, in units of 100 µs. -/
  minCycle : UInt8 := 23
  sequences : UInt8 := 0
  revision : UInt8 := 0x11
  inputLength : UInt8 := 4
  outputLength : UInt8 := 4
  deriving DecidableEq

namespace Com

def check (c : Com) : Except Failure Unit :=
  if !c.fastest.active then .error .badParameter
  else if maxImage < c.inputLength.toNat ∨ maxImage < c.outputLength.toNat then
    .error .badParameter
  else .ok ()

def encode (c : Com) : Octets :=
  [c.fastest.code, c.minCycle, c.sequences, c.revision, c.inputLength, c.outputLength]

/-- Accepts valid parameters only. -/
def decode : Octets → Except Failure Com
  | [fastest, minCycle, sequences, revision, inputLength, outputLength] => do
    let fastest ← (Mode.ofCode fastest).mapError UnknownMode.failure
    let c : Com := ⟨fastest, minCycle, sequences, revision, inputLength, outputLength⟩
    c.check
    return c
  | _ => .error .badParameter

end Com

end Sdci
