import DeviceSupport.Proofs.Message

/-! Which messages are well formed.

A message that is made for a request and a room is valid exactly when its payload is within the
limit: lengths are counted by words, but a length that a word cannot count exceeds the limit too.
In a valid get the two windows tile the payload. A valid message from anywhere carries the slice
that its request's window names (`Request.Carries`), so that the bytes of a request are never empty
for want of payload. -/
namespace DeviceSupport.Message
set_option autoImplicit false

namespace Window

/-- The window reaches over this position of the payload. -/
def Covers (w : Window) (position : Nat) : Prop :=
  w.offset.toNat ≤ position ∧ position < w.stop

/-- The sum of two words fits a double word. -/
theorem toNat_offset_add_length (w : Window) :
    (w.offset.toUInt64 + w.length.toUInt64).toNat = w.stop := by
  have hoffset : w.offset.toNat < 4294967296 := w.offset.toNat_lt
  have hlength : w.length.toNat < 4294967296 := w.length.toNat_lt
  rw [UInt64.toNat_add, UInt32.toNat_toUInt64, UInt32.toNat_toUInt64]
  exact Nat.mod_eq_of_lt (by omega)

theorem not_covers_empty (dataType : DataType) (offset : UInt32) (position : Nat) :
    ¬ (⟨dataType, offset, 0⟩ : Window).Covers position :=
  fun h => absurd (Nat.lt_of_le_of_lt h.1 h.2) (Nat.lt_irrefl _)

end Window

namespace Request

/-- Every position of the payload lies in one of the windows, and none in both. -/
structure Tiled (r : Request) : Prop where
  covered : ∀ position, r.response.Covers position ∨ r.request.Covers position ↔
    position < r.payload.length
  disjoint : ∀ position, ¬ (r.response.Covers position ∧ r.request.Covers position)

/-- The bytes of the request are those that its window names, all of them. -/
structure Carries (r : Request) : Prop where
  slice : ∃ front back, r.payload = front ++ r.requestBytes ++ back ∧
    front.length = r.request.offset.toNat
  length : r.requestBytes.length = r.request.length.toNat

/-! ## Messages that are made here -/

section
variable (target : Target) (requestType : DataType) (bytes : List UInt8) (responseType : DataType)
  (room : Nat)

theorem response_get :
    (get target requestType bytes responseType room).response =
      ⟨responseType, 0, UInt32.ofNat room⟩ := rfl

theorem stop_response_get (h : room ≤ maxPayload) :
    (get target requestType bytes responseType room).response.stop = room := by
  rw [response_get, Window.stop, toNat_ofNat_of_le h]
  exact Nat.zero_add room

theorem stop_request_get (hfits : room + bytes.length ≤ maxPayload) (hbytes : bytes ≠ []) :
    (get target requestType bytes responseType room).request.offset.toNat = room ∧
      (get target requestType bytes responseType room).request.stop = room + bytes.length := by
  have hroom : (UInt32.ofNat room).toNat = room := toNat_ofNat_of_le (by omega)
  have hlength : (UInt32.ofNat bytes.length).toNat = bytes.length := toNat_ofNat_of_le (by omega)
  rw [window_get target requestType bytes responseType room hbytes, Window.stop]
  dsimp only
  rw [hroom, hlength]
  exact ⟨rfl, rfl⟩

theorem request_get_nil :
    (get target requestType [] responseType room).request = ⟨.void, 0, 0⟩ := rfl

theorem validate_get_iff :
    (get target requestType bytes responseType room).validate = .ok () ↔
      room + bytes.length ≤ maxPayload := by
  rw [validate_eq_ok_iff, length_payload_get]
  constructor
  · exact fun h => h.1
  · intro hfits
    refine ⟨hfits, ?_, fun _ => ?_, rfl⟩
    · by_cases hbytes : bytes = []
      · subst hbytes
        rw [request_get_nil]
        exact Nat.zero_le _
      · exact Nat.le_of_eq (stop_request_get target requestType bytes responseType room hfits
          hbytes).2
    · rw [stop_response_get target requestType bytes responseType room (by omega)]
      exact Nat.le_add_right room bytes.length

theorem validate_set_iff :
    (set target requestType bytes responseType room).validate = .ok () ↔
      bytes.length ≤ maxPayload := by
  rw [validate_eq_ok_iff]
  constructor
  · exact fun h => h.1
  · intro hfits
    have hlength : (UInt32.ofNat bytes.length).toNat = bytes.length := toNat_ofNat_of_le hfits
    refine ⟨hfits, ?_, fun hget => (nomatch hget), rfl⟩
    rw [set, Window.stop, hlength]
    exact Nat.le_of_eq (Nat.zero_add _)

theorem tiled_get (hfits : room + bytes.length ≤ maxPayload) :
    (get target requestType bytes responseType room).Tiled := by
  have hstop := stop_response_get target requestType bytes responseType room (by omega)
  have hresponse (position : Nat) :
      (get target requestType bytes responseType room).response.Covers position ↔
        position < room := by
    rw [Window.Covers, hstop]
    exact and_iff_right (Nat.zero_le position)
  have hrequest (position : Nat) :
      (get target requestType bytes responseType room).request.Covers position ↔
        room ≤ position ∧ position < room + bytes.length := by
    by_cases hbytes : bytes = []
    · subst hbytes
      rw [request_get_nil]
      exact iff_of_false (Window.not_covers_empty _ _ _) (by simp)
    · obtain ⟨hoffset, hend⟩ :=
        stop_request_get target requestType bytes responseType room hfits hbytes
      rw [Window.Covers, hoffset, hend]
  refine ⟨fun position => ?_, fun position => ?_⟩
  · rw [hresponse, hrequest, length_payload_get]
    omega
  · rw [hresponse, hrequest]
    omega

end

/-! ## Messages from anywhere -/

theorem carries_of_validate {r : Request} (h : r.validate = .ok ()) : r.Carries := by
  have hinside : r.request.offset.toNat + r.request.length.toNat ≤ r.payload.length :=
    ((validate_eq_ok_iff r).mp h).2.1
  have hbytes := requestBytes_of_le hinside
  constructor
  · refine ⟨r.payload.take r.request.offset.toNat,
      r.payload.drop (r.request.offset.toNat + r.request.length.toNat), ?_, ?_⟩
    · rw [hbytes, List.append_assoc, ← List.drop_drop, List.take_append_drop,
        List.take_append_drop]
    · exact List.length_take_of_le (by omega)
  · rw [hbytes]
    exact Field.length_bytes hinside

end Request

/-- A message is valid exactly when it fits, and a valid message carries its request: what it was
made for when it was made here, and what its window names wherever it comes from. -/
theorem valid_iff_fits :
    (∀ (target : Target) (requestType : DataType) (bytes : List UInt8) (responseType : DataType)
        (room : Nat),
      let g := Request.get target requestType bytes responseType room
      let s := Request.set target requestType bytes responseType room
      (g.validate = .ok () ↔ room + bytes.length ≤ 65536) ∧
        (s.validate = .ok () ↔ bytes.length ≤ 65536) ∧
        (g.validate = .ok () →
          g.requestBytes = bytes ∧ g.response.offset = 0 ∧ g.response.stop = room ∧
            (bytes ≠ [] →
              g.request.offset.toNat = room ∧ g.request.stop = g.payload.length) ∧
            g.Tiled) ∧
        (s.validate = .ok () → s.requestBytes = bytes)) ∧
      (∀ r : Request, r.validate = .ok () →
        r.Carries ∧ (r.opcode = .get → r.response.stop ≤ r.payload.length)) ∧
      ∀ w : Window, (w.offset.toUInt64 + w.length.toUInt64).toNat = w.stop := by
  refine ⟨fun target requestType bytes responseType room => ?made, fun r hvalid => ?any,
    Window.toNat_offset_add_length⟩
  case made =>
    intro g s
    have hget := Request.validate_get_iff target requestType bytes responseType room
    have hset := Request.validate_set_iff target requestType bytes responseType room
    refine ⟨hget, hset, fun hvalid => ?_, fun hvalid => ?_⟩
    · have hfits := hget.mp hvalid
      refine ⟨Request.requestBytes_get target requestType bytes responseType room hfits, rfl,
        Request.stop_response_get target requestType bytes responseType room (by omega),
        fun hbytes => ?_, Request.tiled_get target requestType bytes responseType room hfits⟩
      obtain ⟨hoffset, hend⟩ :=
        Request.stop_request_get target requestType bytes responseType room hfits hbytes
      exact ⟨hoffset, hend.trans
        (Request.length_payload_get target requestType bytes responseType room).symm⟩
    · exact Request.requestBytes_set target requestType bytes responseType room (hset.mp hvalid)
  case any =>
    exact ⟨Request.carries_of_validate hvalid, ((Request.validate_eq_ok_iff r).mp hvalid).2.2.1⟩

end DeviceSupport.Message
