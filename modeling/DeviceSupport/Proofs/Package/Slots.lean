import DeviceSupport.Proofs.Package.Image
import DeviceSupport.Proofs.Package.Pieces

/-! Where encoding puts the parameters of an action.

The items of the filled slots lie one after the other behind the header, and each filled slot has
the offset of its item (`item_of_slot`). What an item reads back (`readBack`) does not depend on what
lies around it, so neither does a slot, and with it the action (`exists_actionImage`). A storable
parameter is read back as it is. -/
namespace DeviceSupport.Package
set_option autoImplicit false

/-! ## Items

What is read at an offset only depends on the bytes from there on. -/

theorem itemLength_skip (pre bytes : List UInt8) (o : Nat) :
    itemLength (pre ++ bytes) (pre.length + o) = itemLength bytes o := by
  rw [itemLength, itemLength, Field.uint16, Field.uint16, Field.bytes_skip (by omega)]
  rw [show pre.length + o + 2 - pre.length = o + 2 by omega]

theorem item?_skip (pre bytes : List UInt8) (o : Nat) :
    item? (pre ++ bytes) (pre.length + o) = item? bytes o := by
  have hoffset : pre.length + o + 4 - pre.length = o + 4 := by omega
  rw [item?, item?, itemLength_skip, Field.uint8_skip (by omega), Nat.add_sub_cancel_left,
    Field.text, Field.uint32, Field.bytes_skip (by omega), Field.bytes_skip (by omega), hoffset]
  rfl

theorem itemFits_skip (pre bytes : List UInt8) (o : Nat) (h : ItemFits bytes o) :
    ItemFits (pre ++ bytes) (pre.length + o) := by
  have hlen : (pre ++ bytes).length = pre.length + bytes.length := List.length_append
  have hkind : Field.uint8 (pre ++ bytes) (pre.length + o) = Field.uint8 bytes o := by
    rw [Field.uint8_skip (by omega), Nat.add_sub_cancel_left]
  refine ⟨?_, fun hone => ?_, fun hfour => ?_⟩
  · have := h.head
    omega
  · have := h.text (hkind ▸ hone)
    rw [itemLength_skip]
    omega
  · have := h.number (hkind ▸ hfour)
    omega

/-- A parameter whose item can hold it: a text ends at its NUL, and its length is a word of 16
bits. -/
def Param.Storable : Param → Prop
  | .text value => Utf8.IsPlain value ∧ (Utf8.encode value).length ≤ 65534
  | .number _ => True

instance : DecidablePred Param.Storable
  | .text _ => inferInstanceAs (Decidable (_ ∧ _))
  | .number _ => inferInstanceAs (Decidable True)

theorem kind_encodeParam (p : Param) (rest : List UInt8) :
    Field.uint8 (encodeParam p ++ rest) 0 = paramKind p := rfl

theorem itemLength_encodeParam (p : Param) (rest : List UInt8) :
    itemLength (encodeParam p ++ rest) 0 = (UInt16.ofNat (paramData p).length).toNat := by
  unfold itemLength encodeParam
  simp (disch := simp) only [Field.uint16, List.append_assoc, Field.bytes_skip, Field.bytes_here,
    List.length_cons, List.length_nil, Nat.reduceAdd, Nat.reduceSub, toUInt16_number16]

theorem data_encodeParam (p : Param) (rest : List UInt8) :
    Field.bytes (encodeParam p ++ rest) 4 (paramData p).length = paramData p := by
  unfold encodeParam
  simp (disch := simp) only [List.append_assoc, Field.bytes_skip, Field.bytes_here,
    List.length_cons, List.length_nil, length_number16, Nat.reduceAdd, Nat.reduceSub]

theorem length_encodeParam (p : Param) : (encodeParam p).length = 4 + (paramData p).length := by
  simp [encodeParam]
  omega

/-- Some of the data, from its start. -/
theorem data_encodeParam_of_le (p : Param) (rest : List UInt8) {length : Nat}
    (h : length ≤ (paramData p).length) :
    Field.bytes (encodeParam p ++ rest) 4 length = (paramData p).take length := by
  have hdata := data_encodeParam p rest
  rw [Field.bytes] at hdata
  rw [Field.bytes, ← hdata, List.take_take, Nat.min_eq_left h]

/-- What is read back where a parameter was written: a text ends where its length says, which is a
word of 16 bits, or at a NUL before that. -/
def readBack : Param → Param
  | .text value =>
    .text (Utf8.decodeField
      ((paramData (.text value)).take ((paramData (.text value)).length % 65536)))
  | .number value => .number value

theorem readBack_of_storable {p : Param} (h : Param.Storable p) : readBack p = p := by
  cases p with
  | text value =>
    have hlt : (paramData (.text value)).length < 65536 := by
      have := h.2
      simp only [paramData, List.length_append, List.length_singleton]
      omega
    rw [readBack, Nat.mod_eq_of_lt hlt, List.take_length, paramData]
    exact congrArg Param.text (Utf8.decodeField_encode_zeros h.1 1)
  | number value => rfl

theorem itemLength_mod (p : Param) (rest : List UInt8) :
    itemLength (encodeParam p ++ rest) 0 = (paramData p).length % 65536 := by
  rw [itemLength_encodeParam, UInt16.toNat_ofNat']

theorem item?_encodeParam (p : Param) (rest : List UInt8) :
    item? (encodeParam p ++ rest) 0 = some (readBack p) := by
  cases p with
  | text value =>
    have htext := data_encodeParam_of_le (.text value) rest
      (Nat.mod_le (paramData (.text value)).length 65536)
    rw [item?, kind_encodeParam, paramKind, if_pos rfl, itemLength_mod, Nat.zero_add, Field.text,
      htext, readBack]
  | number value =>
    have hnumber : Field.uint32 (encodeParam (.number value) ++ rest) 4 = value := by
      have hdata := data_encodeParam (.number value) rest
      rw [paramData, length_ofUInt32] at hdata
      rw [Field.uint32, hdata, LittleEndian.toUInt32_ofUInt32]
    rw [item?, kind_encodeParam, paramKind, if_neg (by decide), if_pos rfl, Nat.zero_add, hnumber,
      readBack]

theorem itemFits_encodeParam (p : Param) (rest : List UInt8) :
    ItemFits (encodeParam p ++ rest) 0 := by
  have hlen : (encodeParam p ++ rest).length = 4 + (paramData p).length + rest.length := by
    rw [List.length_append, length_encodeParam]
  cases p with
  | text value =>
    have hle := Nat.mod_le (paramData (.text value)).length 65536
    refine ⟨by omega, fun _ => ?_, fun hfour => nomatch hfour⟩
    rw [itemLength_mod]
    omega
  | number value =>
    have hdata : (paramData (.number value)).length = 4 := length_ofUInt32 value
    exact ⟨by omega, fun hone => (nomatch hone), fun _ => by omega⟩

/-! ## Offsets -/

def paramItems (params : Params) : List UInt8 := (params.filterMap id).flatMap encodeParam

theorem paramItems_some (p : Param) (params : Params) :
    paramItems (some p :: params) = encodeParam p ++ paramItems params := rfl

theorem length_paramOffsets (start : Nat) (params : Params) :
    (paramOffsets start params).length = params.length := by
  induction params generalizing start with
  | nil => rfl
  | cons p params ih =>
    cases p with
    | none => rw [paramOffsets, List.length_cons, ih, List.length_cons]
    | some p => rw [paramOffsets, List.length_cons, ih, List.length_cons]

/-- The offset of a filled slot counts the items before its own. -/
theorem item_of_slot {params : Params} {slot : Nat} {p : Param} (start : Nat)
    (h : params[slot]? = some (some p)) :
    ∃ before after, paramItems params = before ++ (encodeParam p ++ after) ∧
      (paramOffsets start params)[slot]? = some (start + before.length) := by
  -- A parameter that is there moves the start of all items after it; one that is not moves nothing.
  induction params generalizing start slot with
  | nil => nomatch h
  | cons q params ih =>
    cases slot with
    | zero =>
      obtain rfl : q = some p := by simpa using h
      exact ⟨[], paramItems params, rfl, rfl⟩
    | succ slot =>
      rw [List.getElem?_cons_succ] at h
      cases q with
      | none =>
        obtain ⟨before, after, hitems, hoffset⟩ := ih start h
        refine ⟨before, after, hitems, ?_⟩
        rw [paramOffsets, List.getElem?_cons_succ, hoffset]
      | some q =>
        obtain ⟨before, after, hitems, hoffset⟩ := ih (start + (encodeParam q).length) h
        refine ⟨encodeParam q ++ before, after, ?_, ?_⟩
        · rw [paramItems_some, hitems, List.append_assoc]
        · rw [paramOffsets, List.getElem?_cons_succ, hoffset, List.length_append, Nat.add_assoc]

theorem bytes_numbers {numbers : List Nat} {slot n : Nat} (h : numbers[slot]? = some n)
    (rest : List UInt8) :
    Field.bytes (numbers.flatMap number32 ++ rest) (4 * slot) 4 = number32 n := by
  induction numbers generalizing slot with
  | nil => nomatch h
  | cons m numbers ih =>
    rw [List.flatMap_cons, List.append_assoc]
    cases slot with
    | zero =>
      obtain rfl : m = n := by simpa using h
      exact Field.bytes_here (length_number32 m)
    | succ slot =>
      rw [Field.bytes_skip (by rw [length_number32]; omega), length_number32]
      exact ih (by simpa using h)

theorem length_numbers (numbers : List Nat) :
    (numbers.flatMap number32).length = 4 * numbers.length := by
  induction numbers with
  | nil => rfl
  | cons n numbers ih =>
    rw [List.flatMap_cons, List.length_append, ih, length_number32, List.length_cons]
    omega

/-! ## Actions -/

theorem length_ofList (params : List (Option Param)) : (Params.ofList params).length = 5 := by
  rw [Params.ofList, List.length_append, List.length_take, List.length_replicate, Params.slots]
  omega

end DeviceSupport.Package

namespace DeviceSupport
open Package

structure ActionSpec.Storable (a : ActionSpec) : Prop where
  params : ∀ slot ∈ Params.ofList a.params, ∀ p ∈ slot, Param.Storable p

def ActionSpec.decoded (a : ActionSpec) : Action where
  size := UInt32.ofNat (encodeAction a).length
  actionType := a.actionType
  priority := a.priority
  isKernel := a.isKernel
  params := Params.ofList a.params

/-- The action that is read where this one was written, storable or not. -/
def ActionSpec.readBack (a : ActionSpec) : Action :=
  { a.decoded with params := (Params.ofList a.params).map (Option.map Package.readBack) }

theorem ActionSpec.Storable.readBack_eq {a : ActionSpec} (h : a.Storable) :
    a.readBack = a.decoded := by
  have hparams : (Params.ofList a.params).map (Option.map Package.readBack) =
      Params.ofList a.params := by
    have hslots : ∀ slot ∈ Params.ofList a.params, Option.map Package.readBack slot = id slot := by
      intro slot hslot
      cases slot with
      | none => rfl
      | some p => exact congrArg some (readBack_of_storable (h.params _ hslot p rfl))
    rw [List.map_congr_left hslots, List.map_id]
  rw [ActionSpec.readBack, hparams]
  rfl

def ActionSpec.header (a : ActionSpec) : List UInt8 :=
  number32 (encodeAction a).length ++ LittleEndian.ofUInt32 a.actionType.code ++
    LittleEndian.ofUInt32 a.priority ++ number32 (if a.isKernel then 1 else 0) ++
    (Params.ofList a.params).map (fun p => if p.isSome then 1 else 0) ++ zeros 3 ++
    (paramOffsets actionHeader (Params.ofList a.params)).flatMap number32

theorem length_actionHeader (a : ActionSpec) : a.header.length = 44 := by
  simp only [ActionSpec.header, List.length_append, List.length_map, length_number32, length_zeros,
    length_ofUInt32, length_ofList, length_numbers, length_paramOffsets]

theorem encodeAction_eq (a : ActionSpec) :
    encodeAction a = a.header ++ (paramItems (Params.ofList a.params) ++ zeros a.padding) := by
  have hlen : (encodeAction a).length = _ := length_sized _
  rw [ActionSpec.header, hlen, encodeAction, sized]
  simp only [List.append_assoc]
  rfl

theorem length_encodeAction (a : ActionSpec) :
    (encodeAction a).length = 44 + ((paramItems (Params.ofList a.params)).length + a.padding) := by
  rw [encodeAction_eq, List.length_append, length_actionHeader, List.length_append, length_zeros]

/-! What the header of an action has for a slot. -/

theorem slot_lt {params : List (Option Param)} {slot : Nat} {p : Option Param}
    (h : (Params.ofList params)[slot]? = some p) : slot < 5 :=
  length_ofList params ▸ (List.getElem?_eq_some_iff.mp h).1

theorem valid_encodeAction (a : ActionSpec) {slot : Nat} {p : Option Param}
    (h : (Params.ofList a.params)[slot]? = some p) :
    Field.uint8 (encodeAction a) (16 + slot) = if p.isSome then 1 else 0 := by
  have hlen : ((Params.ofList a.params).map fun p => (if p.isSome then 1 else 0 : UInt8)).length =
      5 := by rw [List.length_map, length_ofList]
  have hoffset : 16 + slot - 4 - 4 - 4 - 4 = slot := by omega
  rw [encodeAction_eq]
  unfold ActionSpec.header
  simp (disch := simp; omega) only [List.append_assoc, Field.uint8_skip, length_number32,
    length_ofUInt32, hoffset]
  rw [Field.uint8_before (hlen ▸ slot_lt h), Field.uint8, List.getD_eq_getElem?_getD,
    List.getElem?_map, h]
  rfl

theorem itemOffset_encodeAction (a : ActionSpec) {slot offset : Nat}
    (h : (paramOffsets actionHeader (Params.ofList a.params))[slot]? = some offset)
    (hlt : offset < 4294967296) : itemOffset (encodeAction a) slot = offset := by
  have hoffset : 24 + 4 * slot - 4 - 4 - 4 - 4 - 5 - 3 = 4 * slot := by omega
  rw [encodeAction_eq]
  unfold itemOffset ActionSpec.header
  simp (disch := simp [length_ofList]; omega) only [List.append_assoc, Field.uint32,
    Field.bytes_skip, length_number32, length_ofUInt32, List.length_map, length_ofList,
    length_zeros, hoffset]
  rw [bytes_numbers h, toUInt32_number32, UInt32.toNat_ofNat_of_lt' hlt]

/-- The item of a filled slot, at the offset that the slot gives. -/
theorem item_encodeAction {a : ActionSpec} (hlen : (encodeAction a).length < 4294967296)
    {slot : Nat} {p : Param} (hp : (Params.ofList a.params)[slot]? = some (some p)) :
    ∃ front back, encodeAction a = front ++ (encodeParam p ++ back) ∧
      itemOffset (encodeAction a) slot = front.length + 0 := by
  obtain ⟨before, after, hitems, hoffset⟩ := item_of_slot actionHeader hp
  have hparts : encodeAction a =
      (a.header ++ before) ++ (encodeParam p ++ (after ++ zeros a.padding)) := by
    rw [encodeAction_eq, hitems]
    simp only [List.append_assoc]
  have hpre : (a.header ++ before).length = actionHeader + before.length := by
    rw [List.length_append, length_actionHeader, actionHeader]
  have hlt : actionHeader + before.length < 4294967296 := by
    rw [hparts, List.length_append, hpre] at hlen
    omega
  refine ⟨_, _, hparts, ?_⟩
  rw [itemOffset_encodeAction a hoffset hlt, hpre, Nat.add_zero]

theorem slot_encodeAction {a : ActionSpec} (hlen : (encodeAction a).length < 4294967296)
    {slot : Nat} {p : Option Param} (hp : (Params.ofList a.params)[slot]? = some p) :
    SlotFits (encodeAction a) slot ∧ param? (encodeAction a) slot = p.map readBack := by
  have hvalid := valid_encodeAction a hp
  cases p with
  | none =>
    rw [SlotFits, param?, hvalid]
    exact ⟨fun hne => absurd rfl hne, rfl⟩
  | some p =>
    obtain ⟨front, back, hparts, hitem⟩ := item_encodeAction hlen hp
    rw [SlotFits, param?, hvalid, hitem, hparts]
    refine ⟨fun _ => itemFits_skip _ _ _ (itemFits_encodeParam p _), ?_⟩
    rw [item?_skip, item?_encodeParam p]
    rfl

/-! The other fields, and the whole action. -/

theorem kernel_word (flag : Bool) :
    decide (0 < (UInt32.ofNat (if flag then 1 else 0)).toInt32) = flag := by
  cases flag <;> decide

theorem map_param?_encodeAction {a : ActionSpec} (hlen : (encodeAction a).length < 4294967296) :
    (List.range Params.slots).map (param? (encodeAction a)) =
      (Params.ofList a.params).map (Option.map readBack) := by
  refine List.ext_getElem? fun slot => ?_
  by_cases hslot : slot < 5
  · have hp := List.getElem?_eq_getElem ((length_ofList a.params).symm ▸ hslot)
    rw [List.getElem?_map, List.getElem?_map, Params.slots, List.getElem?_range hslot, hp]
    exact congrArg some (slot_encodeAction hlen hp).2
  · rw [List.getElem?_eq_none, List.getElem?_eq_none]
    · rw [List.length_map, length_ofList]
      omega
    · rw [List.length_map, List.length_range, Params.slots]
      omega

theorem words_encodeAction (a : ActionSpec) :
    Field.uint32 (encodeAction a) 4 = a.actionType.code ∧
      Field.uint32 (encodeAction a) 8 = a.priority ∧
      Field.uint32 (encodeAction a) 12 = UInt32.ofNat (if a.isKernel then 1 else 0) := by
  rw [encodeAction_eq]
  unfold ActionSpec.header
  simp (disch := simp) only [Field.uint32, List.append_assoc, Field.bytes_skip, Field.bytes_here,
    length_number32, length_ofUInt32, Nat.reduceSub, LittleEndian.toUInt32_ofUInt32,
    toUInt32_number32, and_self]

theorem exists_actionImage {a : ActionSpec} (hlen : (encodeAction a).length < 4294967296) :
    ∃ x : ActionImage, x.bytes = encodeAction a ∧ x.action = a.readBack := by
  have hsized : IsSized 44 (encodeAction a) := by
    refine isSized_of_eq rfl ?_ hlen
    rw [length_encodeAction]
    omega
  have hslots : ∀ slot ∈ List.range Params.slots, SlotFits (encodeAction a) slot := by
    intro slot hslot
    have hlt : slot < (Params.ofList a.params).length := by
      rw [length_ofList]
      exact List.mem_range.mp hslot
    exact (slot_encodeAction hlen (List.getElem?_eq_getElem hlt)).1
  have hsize : Field.uint32 (encodeAction a) 0 = UInt32.ofNat (encodeAction a).length :=
    uint32_sized rfl
  have hparams := map_param?_encodeAction hlen
  obtain ⟨htype, hpriority, hkernel⟩ := words_encodeAction a
  refine ⟨⟨encodeAction a, hsized, hslots⟩, rfl, ?_⟩
  rw [ActionImage.action, ActionSpec.readBack, ActionSpec.decoded, hsize, htype, hpriority, hkernel,
    hparams, kernel_word]

end DeviceSupport
