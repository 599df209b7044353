import DeviceSupport.Proofs.Units.Rescaling
import DeviceSupport.Units.Conversion
import Mathlib.Order.Bounds.Defs

/-! Times between units of different length.

A time conversion rescales and refuses what does not fit a word (`convert_eq`). The lengths of the
units divide each other, so that an equal or finer unit keeps a value that it accepts, and a coarser
one keeps the whole steps of it. All of it, and what it means for hardware that counts in tenths of
a second, is `times_exact_or_refused`. -/
namespace DeviceSupport
set_option autoImplicit false

/-! ## Multiples -/

theorem isGreatest_sub_mod (v k : Nat) : IsGreatest {m | m ≤ v ∧ k ∣ m} (v - v % k) := by
  refine ⟨⟨Nat.sub_le v _, Nat.dvd_sub_mod v⟩, fun m hm => ?_⟩
  obtain ⟨hle, q, rfl⟩ := hm
  have hparts := Nat.div_add_mod v k
  by_cases hk : k = 0
  · subst hk
    omega
  · have hq : q ≤ v / k := (Nat.le_div_iff_mul_le (Nat.pos_of_ne_zero hk)).mpr
      (Nat.mul_comm k q ▸ hle)
    calc k * q ≤ k * (v / k) := Nat.mul_le_mul_left k hq
      _ = v - v % k := by omega

/-! ## Units -/

namespace TimeUnit

theorem micros_pos (unit : TimeUnit) : 0 < unit.micros := by cases unit <;> decide

theorem micros_le (unit : TimeUnit) : unit.micros ≤ 2 ^ 32 := by cases unit <;> decide

/-- The lengths divide each other in their order. -/
theorem micros_dvd {fine coarse : TimeUnit} :
    fine.micros ≤ coarse.micros → fine.micros ∣ coarse.micros := by
  cases fine <;> cases coarse <;> decide

/-- What does not fit a word. -/
def tooLong (input output : TimeUnit) (v : UInt32) : Fault :=
  .parameterOutOfBounds s!"{v} {input} does not fit in {output}"

/-- Zero and a unit that is converted to itself are no exceptions. -/
theorem convert_eq (input output : TimeUnit) (v : UInt32) :
    convert input output v =
      if rescale input.micros output.micros v.toNat < UInt32.size then
        .ok (UInt32.ofNat (rescale input.micros output.micros v.toNat))
      else .error (tooLong input output v) := by
  unfold convert
  split
  next h =>
    have hsame : rescale input.micros output.micros v.toNat = v.toNat :=
      rescale_eq_self input.micros_pos (h.imp (congrArg UInt32.toNat) (congrArg micros))
    rw [hsame, if_pos v.toNat_lt, UInt32.ofNat_toNat]
  next => rfl

theorem convert_eq_ok_iff {input output : TimeUnit} {v w : UInt32} :
    convert input output v = .ok w ↔ rescale input.micros output.micros v.toNat = w.toNat := by
  rw [convert_eq]
  split
  next hfits =>
    rw [Except.ok.injEq, ← UInt32.toNat_inj, UInt32.toNat_ofNat_of_lt' hfits]
  next hlarge =>
    have hw : w.toNat < UInt32.size := w.toNat_lt
    exact iff_of_false nofun fun h => hlarge (h ▸ hw)

theorem exists_convert {input output : TimeUnit} {v : UInt32}
    (h : rescale input.micros output.micros v.toNat < UInt32.size) :
    ∃ w, convert input output v = .ok w ∧
      w.toNat = rescale input.micros output.micros v.toNat :=
  ⟨_, (convert_eq_ok_iff (w := UInt32.ofNat _)).mpr (UInt32.toNat_ofNat_of_lt' h).symm,
    UInt32.toNat_ofNat_of_lt' h⟩

/-- A conversion in unsigned words of 64 bits; none when a number on the way does not fit. -/
def convert64? (input output : TimeUnit) (value : UInt32) : Option (Except Fault UInt32) :=
  if value = 0 ∨ input = output then some (.ok value)
  else (rescale64? input.micros output.micros value.toNat).map fun scaled =>
    if scaled < UInt32.size then .ok (UInt32.ofNat scaled)
    else .error (tooLong input output value)

theorem convert64?_eq (input output : TimeUnit) (v : UInt32) :
    convert64? input output v = some (convert input output v) := by
  rw [convert64?, convert, rescale64?_eq v input.micros_le]
  split <;> rfl

/-! ## There and back -/

theorem finer_back {input output : TimeUnit} (h : output.micros ≤ input.micros) {v w : UInt32}
    (hw : convert input output v = .ok w) : convert output input w = .ok v := by
  rw [convert_eq_ok_iff] at hw ⊢
  rw [← hw, rescale_back_iff input.micros_pos]
  exact Nat.dvd_mul_left_of_dvd (micros_dvd h) v.toNat

/-- The whole steps of the coarser unit come back. -/
theorem coarser_back (input output : TimeUnit) (h : input.micros ≤ output.micros) (v : UInt32) :
    ∃ w back, convert input output v = .ok w ∧ convert output input w = .ok back ∧
      back.toNat = v.toNat - v.toNat % (output.micros / input.micros) := by
  have hv : v.toNat < UInt32.size := v.toNat_lt
  obtain ⟨w, hw, hcounted⟩ :=
    exists_convert (Nat.lt_of_le_of_lt (rescale_le h v.toNat) hv)
  obtain ⟨k, hk⟩ := micros_dvd h
  have hback : rescale output.micros input.micros w.toNat = v.toNat - v.toNat % k := by
    rw [hcounted, hk, rescale_back_of_mul input.micros_pos]
  obtain ⟨back, hok, hnat⟩ := exists_convert (by omega :
    rescale output.micros input.micros w.toNat < UInt32.size)
  refine ⟨w, back, hw, hok, ?_⟩
  rw [hnat, hback, hk, Nat.mul_div_cancel_left k input.micros_pos]

/-- What a conversion does to a value, and what the conversion back makes of it. -/
structure ExactOrRefused (input output : TimeUnit) (v : UInt32) : Prop where
  exact : v.toNat * input.micros / output.micros < UInt32.size →
    ∃ w, convert input output v = .ok w ∧ w.toNat = v.toNat * input.micros / output.micros
  refused : UInt32.size ≤ v.toNat * input.micros / output.micros →
    convert input output v = .error (tooLong input output v)
  within64 : convert64? input output v = some (convert input output v)
  finer : output.micros ≤ input.micros →
    ∀ w, convert input output v = .ok w → convert output input w = .ok v
  coarser : input.micros ≤ output.micros →
    ∃ w back, convert input output v = .ok w ∧ convert output input w = .ok back ∧
      IsGreatest {m | m ≤ v.toNat ∧ output.micros / input.micros ∣ m} back.toNat

theorem exactOrRefused (input output : TimeUnit) (v : UInt32) : ExactOrRefused input output v := by
  constructor
  case exact => exact exists_convert
  case refused =>
    intro hlarge
    rw [convert_eq, rescale, if_neg (Nat.not_lt.mpr hlarge)]
  case within64 => exact convert64?_eq input output v
  case finer => exact fun h w hw => finer_back h hw
  case coarser =>
    intro h
    obtain ⟨w, back, hw, hback, hnat⟩ := coarser_back input output h v
    exact ⟨w, back, hw, hback, hnat ▸ isGreatest_sub_mod v.toNat _⟩

/-- Between the hardware's unit and the caller's, in the direction of the opcode. -/
def transfer (hardware caller : TimeUnit) (opcode : Opcode) (word : UInt32) : Except Fault UInt32 :=
  match opcode with
  | .get => convert hardware caller word
  | .set => convert caller hardware word

end TimeUnit

/-! ## By algorithm -/

/-- The unit in which the hardware counts time; none when the algorithm names none. Without a unit
of its own it counts in the caller's milliseconds. -/
def Algorithm.timeUnit? (a : Algorithm) : Option TimeUnit :=
  match ConversionKind.ofCode? a.time with
  | some .timeNone => some .milliSeconds
  | some .timeDeciSeconds => some .deciSeconds
  | some .timeMilliSeconds => some .milliSeconds
  | _ => none

/-- An algorithm without a unit names no time, whether or not its code is a kind. -/
theorem convertTime_eq (a : Algorithm) (actionType : ActionType) (opcode : Opcode)
    (word : UInt32) :
    convertTime .normalized word actionType (some a) opcode =
      match a.timeUnit? with
      | none => .error (.unsupportedAlgorithm a.time)
      | some unit => unit.transfer .normalized opcode word := by
  have hrequire : requireAlgorithm actionType (some a) = .ok a := rfl
  have hself : TimeUnit.convert .milliSeconds .milliSeconds word = .ok word := if_pos (.inr rfl)
  simp only [convertTime, hrequire, Algorithm.kindOf, Algorithm.timeUnit?, bind, Except.bind]
  cases hkind : ConversionKind.ofCode? a.time with
  | none => rfl
  | some kind =>
    rw [← ConversionKind.code_of_ofCode? hkind]
    cases kind <;> cases opcode <;>
      simp only [TimeUnit.transfer, TimeUnit.normalized, hself] <;> rfl

theorem convertTime_of_unit {a : Algorithm} {unit : TimeUnit} (hunit : a.timeUnit? = some unit)
    (actionType : ActionType) (opcode : Opcode) (word : UInt32) :
    convertTime .normalized word actionType (some a) opcode =
      unit.transfer .normalized opcode word := by
  rw [convertTime_eq, hunit]

/-- A conversion is the exact value rounded down, or refused when that does not fit a word, and 64
bits hold every number on the way. The conversion back from an equal or finer unit returns the old
value, and from a coarser one the greatest of its steps that are not above it. So hardware that
counts in tenths of a second keeps the whole tenths of a limit in milliseconds, and what it shows is
written back as the word it came from. -/
theorem times_exact_or_refused :
    (∀ (input output : TimeUnit) (v : UInt32), TimeUnit.ExactOrRefused input output v) ∧
    ∀ (a : Algorithm) (actionType : ActionType), a.timeUnit? = some .deciSeconds →
      ∀ word : UInt32,
        (∃ held shown, convertTime .normalized word actionType (some a) .set = .ok held ∧
          convertTime .normalized held actionType (some a) .get = .ok shown ∧
          shown.toNat = word.toNat - word.toNat % 100) ∧
        ∀ shown, convertTime .normalized word actionType (some a) .get = .ok shown →
          convertTime .normalized shown actionType (some a) .set = .ok word := by
  refine ⟨TimeUnit.exactOrRefused, fun a actionType hunit word => ⟨?_, fun shown hshown => ?_⟩⟩
  · obtain ⟨held, shown, hset, hget, hnat⟩ :=
      TimeUnit.coarser_back .milliSeconds .deciSeconds (by decide) word
    refine ⟨held, shown, ?_, ?_, hnat⟩
    · rw [convertTime_of_unit hunit]
      exact hset
    · rw [convertTime_of_unit hunit]
      exact hget
  · rw [convertTime_of_unit hunit] at hshown ⊢
    exact TimeUnit.finer_back (by decide) hshown

namespace Sample

/-- An algorithm for one kind of time. -/
def clock (kind : ConversionKind) : Algorithm := ⟨.msr, 6, 0, 0, 2, kind.code, 28⟩

/-- The greatest word of seconds is refused in microseconds; as milliseconds it loses its last 95 to
hardware that counts in tenths of a second; and nineteen of these are written back as nineteen. -/
theorem tenths_come_back :
    TimeUnit.convert .seconds .microSeconds 0xFFFFFFFF =
        .error (TimeUnit.tooLong .seconds .microSeconds 0xFFFFFFFF) ∧
      (clock .timeDeciSeconds).timeUnit? = some .deciSeconds ∧
      (∃ held shown,
        convertTime .normalized 0xFFFFFFFF .msr (some (clock .timeDeciSeconds)) .set = .ok held ∧
        convertTime .normalized held .msr (some (clock .timeDeciSeconds)) .get = .ok shown ∧
        shown.toNat = 4294967200) ∧
      convertTime .normalized 19 .msr (some (clock .timeDeciSeconds)) .get = .ok 1900 ∧
      convertTime .normalized 1900 .msr (some (clock .timeDeciSeconds)) .set = .ok 19 := by
  have hunit : (clock .timeDeciSeconds).timeUnit? = some .deciSeconds := by decide
  have hshown : convertTime .normalized 19 .msr (some (clock .timeDeciSeconds)) .get = .ok 1900 := by
    rw [convertTime_of_unit hunit]
    exact TimeUnit.convert_eq_ok_iff.mpr (by decide)
  have hgreatest : (0xFFFFFFFF : UInt32).toNat = 4294967295 := rfl
  obtain ⟨hunits, htenths⟩ := times_exact_or_refused
  obtain ⟨held, shown, hset, hget, hnat⟩ := (htenths _ .msr hunit 0xFFFFFFFF).1
  have hlarge : UInt32.size ≤
      (0xFFFFFFFF : UInt32).toNat * TimeUnit.micros .seconds / TimeUnit.micros .microSeconds := by
    rw [hgreatest]
    decide
  rw [hgreatest] at hnat
  exact ⟨(hunits .seconds .microSeconds 0xFFFFFFFF).refused hlarge, hunit,
    ⟨held, shown, hset, hget, hnat⟩, hshown, (htenths _ .msr hunit 19).2 1900 hshown⟩

end Sample

end DeviceSupport
