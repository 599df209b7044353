import DeviceSupport.Proofs.Package.RoundTrip

/-! Which texts a package keeps.

The length of a text with its NUL is written as a word of 16 bits, and reading ends where that word
says. So a text without NULs comes back exactly when it has at most 65534 bytes (`readBack_eq_iff`);
of a longer one the front is read, however short the length has become. -/
namespace DeviceSupport.Package
set_option autoImplicit false

theorem length_paramData_text (value : String) :
    (paramData (.text value)).length = (Utf8.encode value).length + 1 := by
  simp [paramData]

/-- The length that is written for a text tells how much data follows it, for short texts only. -/
theorem itemLength_text_iff (value : String) (rest : List UInt8) :
    itemLength (encodeParam (.text value) ++ rest) 0 = (Utf8.encode value).length + 1 ↔
      (Utf8.encode value).length ≤ 65534 := by
  rw [itemLength_mod, length_paramData_text]
  omega

/-- Of a text that is too long for its length, what is read is a part of its front. -/
theorem readBack_long {value : String} (hplain : Utf8.IsPlain value)
    (hlong : 65535 ≤ (Utf8.encode value).length) :
    readBack (.text value) =
      .text (Utf8.decode ((Utf8.encode value).take (((Utf8.encode value).length + 1) % 65536))) := by
  have hfront : ((Utf8.encode value).length + 1) % 65536 ≤ (Utf8.encode value).length := by omega
  have hnonzero : ∀ b ∈ (Utf8.encode value).take (((Utf8.encode value).length + 1) % 65536),
      b ≠ 0 :=
    fun b hb => Utf8.encode_nonzero hplain b (List.mem_of_mem_take hb)
  rw [readBack, length_paramData_text, paramData, List.take_append_of_le_length hfront,
    Utf8.decodeField, Utf8.beforeNul_eq_self hnonzero]

theorem readBack_eq_iff {value : String} (hplain : Utf8.IsPlain value) :
    readBack (.text value) = .text value ↔ (Utf8.encode value).length ≤ 65534 := by
  constructor
  · intro hsame
    refine Nat.le_of_not_lt fun hlong => ?_
    rw [readBack_long hplain hlong, Param.text.injEq] at hsame
    exact Utf8.decode_take_ne (by omega) hsame
  · intro hshort
    exact readBack_of_storable ⟨hplain, hshort⟩

/-! ## Packages -/

theorem decode_encode_of_fits {s : PackageSpec} (h : s.Fits) :
    ∃ p, decode (encode s) = .ok p ∧
      p.primitives.toList = s.domains.flatMap fun d => d.primitives.map (·.readBack) := by
  obtain ⟨i, hbytes, -, hdomains, -, -⟩ := exists_writtenImage h
  refine ⟨i.profile, (decode_eq_ok_iff _ _).mpr ⟨i, hbytes ▸ List.prefix_refl _, rfl⟩, ?_⟩
  have hprimitives := congrArg (List.flatMap Prod.snd) hdomains
  rw [List.flatMap_map, List.flatMap_map] at hprimitives
  exact i.profile_primitives.trans hprimitives

theorem length_encodeAction_lt {s : PackageSpec} (h : s.Fits) {d : DomainSpec} (hd : d ∈ s.domains)
    {p : PrimitiveSpec} (hp : p ∈ d.primitives) {a : ActionSpec} (ha : a ∈ p.actions) :
    (encodeAction a).length < 4294967296 := by
  have haction := length_le_flatMap encodeAction ha
  have hprimitive := length_le_flatMap encodePrimitive hp
  have hdomain := length_le_flatMap encodeDomain hd
  have hshort := h.short
  rw [length_encodePrimitive] at hprimitive
  rw [length_encodeDomain] at hdomain
  rw [length_encode] at hshort
  omega

/-- Every package whose counts and size fit is decoded, whatever texts it holds, and so is each of
its actions, in its place. There a text without NULs is found in its slot exactly when it has at most
65534 bytes, and exactly then the length written for it is that of its data. -/
theorem text_survives_iff {s : PackageSpec} (h : s.Fits) :
    ∃ profile, decode (encode s) = .ok profile ∧
      profile.primitives.toList = s.domains.flatMap (fun d => d.primitives.map (·.readBack)) ∧
      ∀ d ∈ s.domains, ∀ p ∈ d.primitives, ∀ (k : Nat) (a : ActionSpec), p.actions[k]? = some a →
        ∀ (slot : Nat) (value : String), (Params.ofList a.params)[slot]? = some (some (.text value)) →
          Utf8.IsPlain value →
            (itemLength (encodeAction a) (itemOffset (encodeAction a) slot) =
                (Utf8.encode value).length + 1 ↔ (Utf8.encode value).length ≤ 65534) ∧
              ∃ action found, p.readBack.actions[k]? = some action ∧
                action.params[slot]? = some (some (.text found)) ∧
                (found = value ↔ (Utf8.encode value).length ≤ 65534) := by
  obtain ⟨profile, hdecode, hprimitives⟩ := decode_encode_of_fits h
  refine ⟨profile, hdecode, hprimitives, fun d hd p hp k a ha slot value hslot hplain => ⟨?_, ?_⟩⟩
  · have hlen := length_encodeAction_lt h hd hp (List.mem_of_getElem? ha)
    obtain ⟨front, back, hparts, hoffset⟩ := item_encodeAction hlen hslot
    rw [hoffset, hparts, itemLength_skip]
    exact itemLength_text_iff value back
  · have haction : p.readBack.actions[k]? = some a.readBack := by
      rw [PrimitiveSpec.readBack, List.getElem?_map, ha]
      rfl
    have hparam : a.readBack.params[slot]? = some (some (readBack (.text value))) := by
      rw [ActionSpec.readBack, List.getElem?_map, hslot]
      rfl
    have hkept := readBack_eq_iff hplain
    rw [readBack] at hparam hkept
    rw [Param.text.injEq] at hkept
    exact ⟨a.readBack, _, haction, hparam, hkept⟩

end DeviceSupport.Package

namespace DeviceSupport.Sample
open Package

/-- A text of one byte over and over. -/
def repeated (n : Nat) : String := String.ofList (List.replicate n 'a')

theorem length_repeated (n : Nat) : (Utf8.encode (repeated n)).length = n := by
  have hone : (String.utf8EncodeChar 'a').length = 1 := rfl
  simp [repeated, Utf8.encode, List.flatMap_replicate, hone]

theorem plain_repeated (n : Nat) : Utf8.IsPlain (repeated n) := by
  simp [Utf8.IsPlain, repeated]

/-- An action with this text alone. -/
def textAction (n : Nat) : ActionSpec :=
  { actionType := .config, isKernel := false, params := [some (.text (repeated n))] }

def textPrimitive (n : Nat) : PrimitiveSpec :=
  { opcode := .get, tuple := ⟨17, 1, 255⟩, requestType := 1, resultType := 8
    actions := [textAction n] }

def textDomain (n : Nat) : DomainSpec :=
  { name := "CPU", qualifier := "D0", primitives := [textPrimitive n] }

def textPackage (n : Nat) : PackageSpec :=
  { descriptor := { code := "demo" }, domains := [textDomain n] }

theorem length_textPackage (n : Nat) : (encode (textPackage n)).length = n + 1109 := by
  have hparam : (encodeParam (.text (repeated n))).length = n + 5 := by
    rw [length_encodeParam, length_paramData_text, length_repeated]
    omega
  have hitems : paramItems (Params.ofList (textAction n).params) =
      encodeParam (.text (repeated n)) := List.append_nil _
  have haction : (encodeAction (textAction n)).length = n + 49 := by
    rw [length_encodeAction, hitems, hparam]
    show 44 + (n + 5 + 0) = n + 49
    omega
  simp [length_encode, textPackage, length_encodeDomain, textDomain, length_encodePrimitive,
    textPrimitive, haction]
  omega

theorem textPackage_fits {n : Nat} (h : n ≤ 65536) : (textPackage n).Fits where
  few_actions d hd p hp := by
    obtain rfl := List.mem_singleton.mp hd
    obtain rfl := List.mem_singleton.mp hp
    exact Nat.le_of_ble_eq_true rfl
  few_primitives d hd := by
    obtain rfl := List.mem_singleton.mp hd
    exact Nat.le_of_ble_eq_true rfl
  some_domain := Nat.le_refl 1
  few_domains := Nat.le_of_ble_eq_true rfl
  few_algorithms := Nat.zero_le _
  few_events := Nat.zero_le _
  short := by
    rw [length_textPackage]
    omega

/-- The longest text that survives. -/
theorem longest_text_survives :
    (textPackage 65534).Fits ∧ (Utf8.encode (repeated 65534)).length = 65534 ∧
      ∃ profile action, decode (encode (textPackage 65534)) = .ok profile ∧
        profile.primitives.toList = [(textPrimitive 65534).readBack] ∧
        (textPrimitive 65534).readBack.actions[0]? = some action ∧
        action.params[0]? = some (some (.text (repeated 65534))) := by
  have hlength := length_repeated 65534
  have hfits := textPackage_fits (n := 65534) (by decide)
  obtain ⟨profile, hdecode, hprimitives, hsurvives⟩ := text_survives_iff hfits
  obtain ⟨-, action, found, haction, hfound, hsame⟩ :=
    hsurvives _ (List.mem_singleton.mpr rfl) _ (List.mem_singleton.mpr rfl) 0 (textAction 65534) rfl
      0 (repeated 65534) rfl (plain_repeated 65534)
  obtain rfl := hsame.mpr (Nat.le_of_eq hlength)
  exact ⟨hfits, hlength, profile, action, hdecode, hprimitives, haction, hfound⟩

/-- One byte more, which a parameter may still have, and the text is read back as the empty one. -/
theorem longer_text_lost :
    Utf8.IsPlain (repeated 65535) ∧ (Utf8.encode (repeated 65535)).length ≤ Limits.parameterLength ∧
      repeated 65535 ≠ "" ∧
      ∃ profile, decode (encode (textPackage 65535)) = .ok profile ∧
        profile.primitives.toList.map (fun p => p.actions.map (·.params)) =
          [[[some (.text ""), none, none, none, none]]] := by
  have hlength := length_repeated 65535
  have hplain := plain_repeated 65535
  have hempty : readBack (.text (repeated 65535)) = .text "" := by
    rw [readBack_long hplain (Nat.le_of_eq hlength.symm), hlength]
    rfl
  have hparams : (textAction 65535).readBack.params =
      [some (readBack (.text (repeated 65535))), none, none, none, none] := rfl
  obtain ⟨profile, hdecode, hprimitives⟩ :=
    decode_encode_of_fits (textPackage_fits (n := 65535) (by decide))
  refine ⟨hplain, by rw [hlength]; decide, fun h => ?_, profile, hdecode, ?_⟩
  · rw [h] at hlength
    nomatch hlength
  · rw [hprimitives, ← hempty, ← hparams]
    rfl

end DeviceSupport.Sample
