import Sdci.Octets

/-! # Texts of numbers

How diagnostic records write numbers and octet strings: hexadecimal of a fixed width, and lists in
square brackets.
-/

namespace Sdci.Text
set_option autoImplicit false

/-- The character of a digit below sixteen; `ten` is the character that stands for ten. -/
def digit (ten : Char) (n : Nat) : Char :=
  if n < 10 then Char.ofNat (48 + n) else Char.ofNat (ten.toNat + n - 10)

/-- The low `width` hexadecimal digits of a number, leading zeros included. -/
def hexDigits (ten : Char) : Nat → Nat → List Char
  | 0, _ => []
  | width + 1, n => hexDigits ten width (n / 16) ++ [digit ten (n % 16)]

def upperHex (width n : Nat) : String := String.ofList (hexDigits 'A' width n)

def lowerHex (width n : Nat) : String := String.ofList (hexDigits 'a' width n)

/-- A 16-bit number as `0x8C30`. -/
def word (n : UInt16) : String := "0x" ++ upperHex 4 n.toNat

def bracketed (items : List String) : String := "[" ++ ", ".intercalate items ++ "]"

/-- Octets in hexadecimal, as `[00, 2D]`. -/
def octets (data : Octets) : String := bracketed (data.map fun o => upperHex 2 o.toNat)

/-- Octets in decimal, as `[0, 45]`. -/
def numbers (data : Octets) : String := bracketed (data.map fun o => toString o.toNat)

end Sdci.Text
