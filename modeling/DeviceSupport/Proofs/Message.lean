import DeviceSupport.Message
import DeviceSupport.Proofs.Bytes.Field

/-! The windows of a message.

A message is valid exactly when its windows lie inside a payload of allowed size, and the request's
window of a valid message holds the bytes that it was made for (`requestBytes_make`). -/
namespace DeviceSupport.Message
set_option autoImplicit false

theorem Window.check_eq_ok_iff (w : Window) (name : String) (payload : Nat) (u : Unit) :
    w.check name payload = .ok u ↔ w.stop ≤ payload := by
  unfold check
  by_cases h : payload < w.stop
  · rw [if_pos h]
    exact ⟨fun e => (nomatch e), fun hle => absurd hle (Nat.not_le.mpr h)⟩
  · rw [if_neg h]
    exact ⟨fun _ => Nat.le_of_not_lt h, fun _ => rfl⟩

/-- A length inside the limit of a payload is counted in full. -/
theorem toNat_ofNat_of_le {n : Nat} (h : n ≤ maxPayload) : (UInt32.ofNat n).toNat = n := by
  have hlimit : maxPayload < UInt32.size := by decide
  exact UInt32.toNat_ofNat_of_lt' (Nat.lt_of_le_of_lt h hlimit)

namespace Request

theorem validate_eq_ok_iff (r : Request) :
    r.validate = .ok () ↔
      r.payload.length ≤ maxPayload ∧ r.request.stop ≤ r.payload.length ∧
        (r.opcode = .get → r.response.stop ≤ r.payload.length) ∧ r.source = Endpoint.user := by
  have hsource : (if r.source ≠ Endpoint.user then
        throw (.messageInvalid s!"Unexpected source instance {r.source}")
      else pure () : Except Fault Unit) = .ok () ↔ r.source = Endpoint.user := by
    by_cases h : r.source ≠ Endpoint.user
    · rw [if_pos h]
      exact ⟨fun e => (nomatch e), fun e => absurd e h⟩
    · rw [if_neg h]
      exact ⟨fun _ => Decidable.not_not.mp h, fun _ => rfl⟩
  unfold validate
  dsimp only
  by_cases hpayload : maxPayload < r.payload.length
  · rw [if_pos hpayload]
    exact ⟨fun e => (nomatch e), fun h => absurd h.1 (Nat.not_le.mpr hpayload)⟩
  rw [if_neg hpayload, bind_eq_ok_iff]
  by_cases hget : r.opcode = .get
  · rw [if_pos hget]
    constructor
    · rintro ⟨_, hrequest, h⟩
      obtain ⟨_, hresponse, h⟩ := bind_eq_ok_iff.mp h
      exact ⟨Nat.le_of_not_lt hpayload, (r.request.check_eq_ok_iff _ _ _).mp hrequest,
        fun _ => (r.response.check_eq_ok_iff _ _ _).mp hresponse, hsource.mp h⟩
    · rintro ⟨-, hrequest, hresponse, h⟩
      exact ⟨(), (r.request.check_eq_ok_iff _ _ _).mpr hrequest, bind_eq_ok_iff.mpr
        ⟨(), (r.response.check_eq_ok_iff _ _ _).mpr (hresponse hget), hsource.mpr h⟩⟩
  · rw [if_neg hget]
    constructor
    · rintro ⟨_, hrequest, h⟩
      exact ⟨Nat.le_of_not_lt hpayload, (r.request.check_eq_ok_iff _ _ _).mp hrequest,
        fun h => absurd h hget, hsource.mp h⟩
    · rintro ⟨-, hrequest, -, h⟩
      exact ⟨(), (r.request.check_eq_ok_iff _ _ _).mpr hrequest, hsource.mpr h⟩

theorem requestBytes_of_le {r : Request} (h : r.request.stop ≤ r.payload.length) :
    r.requestBytes = (r.payload.drop r.request.offset.toNat).take r.request.length.toNat :=
  if_pos h

section
variable (target : Target) (requestType : DataType) (bytes : List UInt8) (responseType : DataType)
  (room : Nat)

theorem opcode_make (opcode : Opcode) :
    (make opcode target requestType bytes responseType room).opcode = opcode := by
  cases opcode <;> rfl

theorem target_make (opcode : Opcode) :
    (make opcode target requestType bytes responseType room).target = target := by
  cases opcode <;> rfl

theorem window_get (h : bytes ≠ []) :
    (get target requestType bytes responseType room).request =
      ⟨requestType, UInt32.ofNat room, UInt32.ofNat bytes.length⟩ := by
  have hempty : bytes.isEmpty = false := List.isEmpty_eq_false_iff.mpr h
  rw [get, hempty]
  rfl

theorem length_payload_get :
    (get target requestType bytes responseType room).payload.length = room + bytes.length := by
  rw [get, List.length_append, List.length_replicate]

theorem requestBytes_get (h : room + bytes.length ≤ maxPayload) :
    (get target requestType bytes responseType room).requestBytes = bytes := by
  by_cases hempty : bytes = []
  · subst hempty
    rfl
  have hroom : (UInt32.ofNat room).toNat = room := toNat_ofNat_of_le (by omega)
  have hbytes : (UInt32.ofNat bytes.length).toNat = bytes.length := toNat_ofNat_of_le (by omega)
  have hwindow := window_get target requestType bytes responseType room hempty
  have hstop : (get target requestType bytes responseType room).request.stop =
      room + bytes.length := by
    rw [hwindow, Window.stop, hroom, hbytes]
  have hinside := hstop.trans (length_payload_get target requestType bytes responseType room).symm
  rw [requestBytes_of_le (Nat.le_of_eq hinside), hwindow]
  dsimp only [get]
  rw [hroom, hbytes, List.drop_left' List.length_replicate, List.take_length]

theorem requestBytes_set (h : bytes.length ≤ maxPayload) :
    (set target requestType bytes responseType room).requestBytes = bytes := by
  have hbytes : (UInt32.ofNat bytes.length).toNat = bytes.length := toNat_ofNat_of_le h
  have hstop : (set target requestType bytes responseType room).request.stop = bytes.length := by
    rw [set, Window.stop, hbytes]
    exact Nat.zero_add _
  rw [requestBytes_of_le (Nat.le_of_eq hstop)]
  dsimp only [set]
  rw [hbytes]
  exact List.take_length

/-- A valid message carries the bytes that it was made for. -/
theorem requestBytes_make {opcode : Opcode}
    (h : (make opcode target requestType bytes responseType room).validate = .ok ()) :
    (make opcode target requestType bytes responseType room).requestBytes = bytes := by
  have hpayload := ((validate_eq_ok_iff _).mp h).1
  cases opcode with
  | get =>
    have hlength := length_payload_get target requestType bytes responseType room
    exact requestBytes_get target requestType bytes responseType room (hlength ▸ hpayload)
  | set => exact requestBytes_set target requestType bytes responseType room hpayload

/-- The window of a request that is not empty has its type and its length. -/
theorem request_make (opcode : Opcode) (h : bytes ≠ []) :
    (make opcode target requestType bytes responseType room).request.dataType = requestType ∧
      (make opcode target requestType bytes responseType room).request.length =
        UInt32.ofNat bytes.length := by
  cases opcode with
  | get =>
    rw [make, window_get target requestType bytes responseType room h]
    exact ⟨rfl, rfl⟩
  | set => exact ⟨rfl, rfl⟩

end

end Request

end DeviceSupport.Message
