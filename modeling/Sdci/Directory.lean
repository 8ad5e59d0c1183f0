/-! # Directories

A finite map whose entries are kept in ascending order of their keys, so that whoever walks through
it meets them in that order.

* `Directory.find?`, `Directory.insert`, `Directory.erase`: one entry.
* `Directory.map`: a function on every value, the keys unchanged.
-/

namespace Sdci
set_option autoImplicit false

/-- Keys that are compared by a number; distinct keys have distinct numbers. -/
class Ranked (κ : Type) where
  rank : κ → Nat

structure Directory (κ α : Type) where
  entries : List (κ × α) := []

namespace Directory

variable {κ α : Type}

def keys (d : Directory κ α) : List κ := d.entries.map Prod.fst

def values (d : Directory κ α) : List α := d.entries.map Prod.snd

def size (d : Directory κ α) : Nat := d.entries.length

def isEmpty (d : Directory κ α) : Bool := d.entries.isEmpty

def map {β : Type} (d : Directory κ α) (f : α → β) : Directory κ β :=
  ⟨d.entries.map fun e => (e.1, f e.2)⟩

variable [Ranked κ]

def find? (d : Directory κ α) (k : κ) : Option α :=
  (d.entries.find? fun e => Ranked.rank e.1 == Ranked.rank k).map Prod.snd

def contains (d : Directory κ α) (k : κ) : Bool := (d.find? k).isSome

def erase (d : Directory κ α) (k : κ) : Directory κ α :=
  ⟨d.entries.filter fun e => Ranked.rank e.1 != Ranked.rank k⟩

/-- Puts a value in the place of its key, replacing what was there. -/
def insert (d : Directory κ α) (k : κ) (a : α) : Directory κ α :=
  ⟨d.entries.filter (fun e => Ranked.rank e.1 < Ranked.rank k) ++
    (k, a) :: d.entries.filter fun e => Ranked.rank k < Ranked.rank e.1⟩

end Directory

end Sdci
