import Sdci.Request

/-! # Parameter store

The identification and the communication parameters of a device, read and replaced by requests.

* `Store.check`: whether a request may be taken at all.
* `Store.payload`: what the service frame of a request carries.
* `Store.complete`: the end of a request, and the store after it; `Store.serve` is the same without
  a link.
-/

namespace Sdci
set_option autoImplicit false

structure Store where
  ident : Ident := {}
  com : Com := {}
  deriving DecidableEq

namespace Store

def check : Request → Except Failure Unit
  | ⟨.setIdent, ident⟩ => ident.check
  | ⟨.setCom, com⟩ => com.check
  | _ => .ok ()

def payload (s : Store) : Request → Octets
  | ⟨.setIdent, ident⟩ => ident.encode
  | ⟨.setCom, com⟩ => com.encode
  | ⟨.getIdent, _⟩ => s.ident.encode
  | ⟨.getCom, _⟩ => s.com.encode
  | _ => []

/-- Requests that are not about parameters fail and leave the store alone. -/
def complete (s : Store) : Request → Outcome × Store
  | ⟨.setIdent, ident⟩ => (.ok none, { s with ident })
  | ⟨.setCom, com⟩ => (.ok none, { s with com })
  | ⟨.getIdent, _⟩ => (.ok (some s.ident.encode), s)
  | ⟨.getCom, _⟩ => (.ok (some s.com.encode), s)
  | _ => (.error .badParameter, s)

/-- The end of a request while there is no link; what needs one fails. -/
def serve (s : Store) (r : Request) : Outcome × Store :=
  if r.kind.needsLink then (.error .notReady, s) else s.complete r

end Store

end Sdci
