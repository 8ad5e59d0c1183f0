/-! # JSON values

JSON as far as stored configurations and diagnostics need it. Numbers are integers; any other number
is only known to be none.

* `Json.natBelow?`: an integer of a given range.
* `Json.record?`: the fields of a record, by name from an object or by position from an array.
* `Json.variant?`: the name and the content of an alternative.
-/

namespace Sdci
set_option autoImplicit false

inductive Json
  | null
  | bool (b : Bool)
  | int (n : Int)
  /-- A number that is no integer. -/
  | fraction
  | str (s : String)
  | arr (items : List Json)
  | obj (fields : List (String × Json))

namespace Json

/-! ## Writing -/

def nat (n : Nat) : Json := int n

def octets (data : List UInt8) : Json := arr (data.map fun o => nat o.toNat)

/-! ## Reading -/

def natBelow? (bound : Nat) : Json → Option Nat
  | int n => if 0 ≤ n ∧ n < bound then some n.toNat else none
  | _ => none

def uint8? (j : Json) : Option UInt8 := (j.natBelow? UInt8.size).map UInt8.ofNat

def uint16? (j : Json) : Option UInt16 := (j.natBelow? UInt16.size).map UInt16.ofNat

def uint32? (j : Json) : Option UInt32 := (j.natBelow? UInt32.size).map UInt32.ofNat

def uint64? (j : Json) : Option UInt64 := (j.natBelow? UInt64.size).map UInt64.ofNat

def octets? : Json → Option (List UInt8)
  | arr items => items.mapM uint8?
  | _ => none

/-- The named fields of an object; others are passed over. -/
def fields? (names : List String) : Json → Option (List Json)
  | obj fields => names.mapM fun name => List.lookup name fields
  | _ => none

/-- The fields of a record. An array has to list exactly these fields in this order. -/
def record? (names : List String) : Json → Option (List Json)
  | arr items => if items.length = names.length then some items else none
  | j => j.fields? names

/-- An alternative is its name alone or an object with the name as its only key. -/
def variant? : Json → Option (String × Json)
  | str name => some (name, null)
  | obj [(name, content)] => some (name, content)
  | _ => none

def isNull : Json → Bool
  | null => true
  | _ => false

/-- An alternative without content. -/
def unit? (j : Json) : Option String := do
  let (name, content) ← j.variant?
  if content.isNull then some name else none

end Json

end Sdci
