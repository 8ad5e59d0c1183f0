import Sdci.Frame.Device
import Sdci.Proofs.Codec.Seal

/-! # Device frames on the wire

A device frame is read back as it was written. The other way round, the header of process data has
five bits that are not looked at, and only there is something lost.

* `DeviceFrame.Headed`: the headers that say what a frame carries; `DeviceFrame.Marked`: the frames
  that start with one.
* `DeviceFrame.ofBody_data`, `DeviceFrame.ofBody_service`, `DeviceFrame.ofBody_of_not_headed`: what
  is read without the checksum, one for each class of headers.
* `DeviceFrame.decode_exact`: which octets are read, as what, and why others are not.
-/

namespace Sdci
set_option autoImplicit false

theorem Service.ofCode?_eq_some_iff {c : UInt8} {kind : Service} :
    ofCode? c = some kind ↔ kind.code = c := by
  constructor
  · intro h
    have code := List.find?_some h
    exact beq_iff_eq.1 code
  · rintro rfl
    exact ofCode?_code kind

theorem Intact.exists_header {frame : Octets} (h : Intact frame) :
    ∃ header payload, frame = sealed (header :: payload) := by
  obtain ⟨body, some, rfl⟩ := h.exists_sealed
  obtain ⟨header, payload, rfl⟩ := List.exists_cons_of_ne_nil some
  exact ⟨header, payload, rfl⟩

namespace DeviceFrame

/-- The top two bits are 00, or 01 above the code of a service. -/
def Headed (header : UInt8) : Prop :=
  header >>> 6 = 0 ∨ header >>> 6 = 1 ∧ ∃ kind : Service, kind.code = header &&& 0x3F

/-- A frame that starts with such a header. -/
def Marked (frame : Octets) : Prop := ∃ header, frame.head? = some header ∧ Headed header

/-! ## The header -/

theorem service_header (kind : Service) :
    (0x40 ||| kind.code) >>> 6 = 1 ∧ (0x40 ||| kind.code) &&& 0x3F = kind.code := by
  cases kind <;> decide

theorem header_of_service : ∀ header : UInt8, header >>> 6 = 1 →
    0x40 ||| (header &&& 0x3F) = header := forall_octet (by decide +kernel)

/-- Of a process data header only the lowest bit is written again. -/
theorem header_of_processData : ∀ header : UInt8, header >>> 6 = 0 →
    ((if header &&& 1 != 0 then 1 else 0) = header ↔ header &&& 0x3E = 0) :=
  forall_octet (by decide +kernel)

/-! ## Reading without the checksum -/

section Octets

variable {header : UInt8} (payload : Octets)

theorem ofBody_data (data : header >>> 6 = 0) :
    ofBody (header :: payload) = .ok (processData (header &&& 1 != 0) payload) := by
  rw [ofBody, if_pos data]

theorem ofBody_service {kind : Service} (service : header >>> 6 = 1)
    (code : kind.code = header &&& 0x3F) :
    ofBody (header :: payload) = .ok (.service kind payload) := by
  rw [ofBody, if_neg (by rw [service]; decide), if_pos service, ← code, Service.ofCode?_code]

theorem ofBody_of_not_headed (h : ¬Headed header) :
    ofBody (header :: payload) = .error .protocol := by
  rw [ofBody, if_neg fun data => h (.inl data)]
  split
  · rename_i service
    cases code : Service.ofCode? (header &&& 0x3F) with
    | some kind => exact absurd (.inr ⟨service, kind, Service.ofCode?_eq_some_iff.1 code⟩) h
    | none => rfl
  · rfl

end Octets

theorem ofBody_header (x : DeviceFrame) : ofBody (x.header :: x.payload) = .ok x := by
  cases x with
  | processData valid data =>
    cases valid
    · change ofBody (0 :: data) = _
      exact ofBody_data data rfl
    · change ofBody (1 :: data) = _
      exact ofBody_data data rfl
  | service kind payload =>
    obtain ⟨top, low⟩ := service_header kind
    exact ofBody_service payload top low.symm

/-- What is read says again what it was read from, but for the spare bits of process data. -/
theorem exists_ofBody_eq {header : UInt8} (headed : Headed header) (payload : Octets) :
    ∃ x, ofBody (header :: payload) = .ok x ∧ x.payload = payload ∧
      (x.header = header ↔ x.processData? = none ∨ header &&& 0x3E = 0) := by
  rcases headed with data | ⟨service, kind, code⟩
  · refine ⟨_, ofBody_data payload data, rfl, (header_of_processData header data).trans ?_⟩
    exact ⟨.inr, fun either => either.resolve_left nofun⟩
  · refine ⟨_, ofBody_service payload service code, rfl, fun _ => .inl rfl, fun _ => ?_⟩
    change 0x40 ||| kind.code = header
    rw [code, header_of_service header service]

/-! ## Frames -/

theorem decode_encode (x : DeviceFrame) : decode x.encode = .ok x := by
  rw [decode, encode, bind_unsealed_sealed (List.cons_ne_nil _ _), ofBody_header]

theorem decode_of_not_marked {frame : Octets} (intact : Intact frame) (h : ¬Marked frame) :
    decode frame = .error .protocol := by
  obtain ⟨header, payload, rfl⟩ := intact.exists_header
  rw [decode, bind_unsealed_sealed (List.cons_ne_nil _ _)]
  exact ofBody_of_not_headed payload fun headed => h ⟨header, rfl, headed⟩

theorem exists_decode_eq {frame : Octets} (intact : Intact frame) (h : Marked frame) :
    ∃ x, decode frame = .ok x ∧
      (x.encode = frame ↔
        x.processData? = none ∨ ∀ header ∈ frame.head?, header &&& 0x3E = 0) := by
  obtain ⟨header, payload, rfl⟩ := intact.exists_header
  obtain ⟨_, first, headed⟩ := h
  cases first
  obtain ⟨x, read, rest, again⟩ := exists_ofBody_eq headed payload
  refine ⟨x, ?_, ?_⟩
  · rw [decode, bind_unsealed_sealed (List.cons_ne_nil _ _), read]
  · rw [encode, sealed_inj, rest, List.cons.injEq, and_iff_left rfl, again]
    exact or_congr_right ⟨fun spare _ first => Option.some.inj first ▸ spare, fun h => h header rfl⟩

theorem marked_of_decode {frame : Octets} {x : DeviceFrame} (h : decode frame = .ok x) :
    Intact frame ∧ Marked frame := by
  by_cases intact : Intact frame
  · by_cases marked : Marked frame
    · exact ⟨intact, marked⟩
    · cases (decode_of_not_marked intact marked).symm.trans h
  · cases (bind_unsealed_of_not_intact intact).symm.trans h

theorem decode_eq_badChecksum_iff {frame : Octets} :
    decode frame = .error .badChecksum ↔ ¬Intact frame := by
  refine ⟨fun h intact => ?_, bind_unsealed_of_not_intact⟩
  by_cases marked : Marked frame
  · obtain ⟨x, read, -⟩ := exists_decode_eq intact marked
    cases read.symm.trans h
  · cases (decode_of_not_marked intact marked).symm.trans h

/-- A frame that is written is read as itself. A frame is read if it is intact and marked; if it is
not intact its checksum is bad, and if it is only not marked it breaks the protocol. Writing again
what was read gives the same octets, unless they are process data with spare bits in the header. -/
theorem decode_exact :
    (∀ x : DeviceFrame, decode x.encode = .ok x) ∧
      ∀ frame : Octets,
        ((∃ x, decode frame = .ok x) ↔ Intact frame ∧ Marked frame) ∧
        (¬Intact frame → decode frame = .error .badChecksum) ∧
        (Intact frame → ¬Marked frame → decode frame = .error .protocol) ∧
        ∀ x, decode frame = .ok x →
          (x.encode = frame ↔
            x.processData? = none ∨ ∀ header ∈ frame.head?, header &&& 0x3E = 0) := by
  refine ⟨decode_encode, fun frame => ?_⟩
  refine ⟨⟨fun ⟨x, read⟩ => marked_of_decode read, fun ⟨intact, marked⟩ => ?_⟩,
    bind_unsealed_of_not_intact, decode_of_not_marked, fun x read => ?_⟩
  · obtain ⟨x, read, -⟩ := exists_decode_eq intact marked
    exact ⟨x, read⟩
  · obtain ⟨intact, marked⟩ := marked_of_decode read
    obtain ⟨y, same, again⟩ := exists_decode_eq intact marked
    cases same.symm.trans read
    exact again

end DeviceFrame

end Sdci
