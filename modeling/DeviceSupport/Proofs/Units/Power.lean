import DeviceSupport.Proofs.Units.Rescaling
import DeviceSupport.Units.Conversion
import Mathlib.Logic.Function.Iterate

/-! Power limits between a caller and the hardware.

A power conversion rescales and cuts off at the greatest word (`toNat_convert`). A limit in
milliwatts is never raised by the hardware's unit and loses less than one step of it
(`limit_never_exceeded`). A reading that is written back is the old word exactly when it is a whole
number of milliwatts; in thirty-seconds of a watt it falls by one until it is a multiple of four, and
stays there (`limit_settles`). -/
namespace DeviceSupport
set_option autoImplicit false

/-! ## Units -/

namespace PowerUnit

theorem perWatt_pos (unit : PowerUnit) : 0 < unit.perWatt := by cases unit <;> decide

theorem perWatt_le (unit : PowerUnit) : unit.perWatt ≤ 1000 := by cases unit <;> decide

/-- Zero and a unit that is converted to itself are no exceptions. -/
theorem toNat_convert (input output : PowerUnit) (v : UInt32) :
    (convert input output v).toNat =
      min (rescale output.perWatt input.perWatt v.toNat) (UInt32.size - 1) := by
  have hv := v.toNat_lt
  unfold convert
  split
  next h =>
    have hsame : rescale output.perWatt input.perWatt v.toNat = v.toNat :=
      rescale_eq_self output.perWatt_pos
        (h.imp (congrArg UInt32.toNat) fun hunits => congrArg perWatt hunits.symm)
    rw [hsame, Nat.min_eq_left (Nat.le_sub_one_of_lt hv)]
  next =>
    dsimp only
    rw [← rescale]
    split
    next hfits => rw [UInt32.toNat_ofNat_of_lt' hfits, Nat.min_eq_left (Nat.le_sub_one_of_lt hfits)]
    next hlarge =>
      have hgreatest : (0xFFFFFFFF : UInt32).toNat = UInt32.size - 1 := rfl
      rw [hgreatest, Nat.min_eq_right (by omega)]

theorem convert_mono (input output : PowerUnit) {v w : UInt32} (h : v ≤ w) :
    convert input output v ≤ convert input output w := by
  have hscaled := rescale_mono output.perWatt input.perWatt (UInt32.le_iff_toNat_le.mp h)
  rw [UInt32.le_iff_toNat_le, toNat_convert, toNat_convert]
  omega

/-- A conversion in unsigned words of 64 bits; none when a number on the way does not fit. -/
def convert64? (input output : PowerUnit) (value : UInt32) : Option UInt32 :=
  if value = 0 ∨ input = output then some value
  else (rescale64? output.perWatt input.perWatt value.toNat).map fun scaled =>
    if scaled < UInt32.size then UInt32.ofNat scaled else 0xFFFFFFFF

theorem convert64?_eq (input output : PowerUnit) (v : UInt32) :
    convert64? input output v = some (convert input output v) := by
  have hfactor : output.perWatt ≤ 2 ^ 32 := Nat.le_trans output.perWatt_le (by decide)
  rw [convert64?, convert, rescale64?_eq v hfactor]
  split <;> rfl

/-! ## Milliwatts and the hardware's unit -/

/-- One step of the unit in milliwatts, rounded up. -/
def milliwattStep : PowerUnit → Nat
  | .watts => 1000
  | .deciWatts => 100
  | .centiWatts => 10
  | .milliWatts => 1
  | .atom => 32
  | .core => 125

/-- What is shown of a word, as a number of any size: its milliwatts, rounded down. -/
def milliwatts (unit : PowerUnit) (held : UInt32) : Nat := held.toNat * 1000 / unit.perWatt

/-- The two remainders that a limit can lose are together less than a step. -/
theorem perWatt_add_lt (unit : PowerUnit) :
    unit.perWatt + 1000 < unit.milliwattStep * unit.perWatt + 2 * Nat.gcd unit.perWatt 1000 := by
  cases unit <;> decide

theorem toNat_get (unit : PowerUnit) (held : UInt32) :
    (unit.convert normalized held).toNat = min (unit.milliwatts held) (UInt32.size - 1) :=
  toNat_convert unit normalized held

/-- Nothing is cut off on the way to the hardware. -/
theorem toNat_set (unit : PowerUnit) (limit : UInt32) :
    (normalized.convert unit limit).toNat = rescale unit.perWatt 1000 limit.toNat := by
  have hle := rescale_le unit.perWatt_le limit.toNat
  have hlimit := limit.toNat_lt
  have hnormalized : normalized.perWatt = 1000 := rfl
  rw [toNat_convert, hnormalized]
  exact Nat.min_eq_left (Nat.le_sub_one_of_lt (Nat.lt_of_le_of_lt hle hlimit))

/-- Nor on the way back. -/
theorem toNat_get_set (unit : PowerUnit) (limit : UInt32) :
    (unit.convert normalized (normalized.convert unit limit)).toNat =
      rescale 1000 unit.perWatt (rescale unit.perWatt 1000 limit.toNat) := by
  have hle := rescale_back_le unit.perWatt_pos 1000 limit.toNat
  have hlimit := limit.toNat_lt
  rw [toNat_get, milliwatts, toNat_set]
  exact Nat.min_eq_left (Nat.le_sub_one_of_lt (Nat.lt_of_le_of_lt hle hlimit))

theorem get_set_le (unit : PowerUnit) (limit : UInt32) :
    unit.convert normalized (normalized.convert unit limit) ≤ limit := by
  rw [UInt32.le_iff_toNat_le, toNat_get_set]
  exact rescale_back_le unit.perWatt_pos 1000 limit.toNat

theorem get_set_near (unit : PowerUnit) (limit : UInt32) :
    limit.toNat - (unit.convert normalized (normalized.convert unit limit)).toNat <
      unit.milliwattStep := by
  have hlost := rescale_lost_le unit.perWatt_pos (by decide : 0 < 1000) limit.toNat
  have hstep := unit.perWatt_add_lt
  rw [← toNat_get_set] at hlost
  exact Nat.lt_of_mul_lt_mul_right (a := unit.perWatt) (by omega)

/-- Only a unit that is not the caller's can be cut off, and none of its readings is the greatest
word by itself. -/
theorem milliwatts_ne {unit : PowerUnit} (h : unit ≠ .milliWatts) (held : UInt32) :
    unit.milliwatts held ≠ UInt32.size - 1 := by
  have hsize : UInt32.size - 1 = 4294967295 := rfl
  rw [hsize, milliwatts]
  cases unit with
  | milliWatts => exact absurd rfl h
  | watts | deciWatts | centiWatts | atom | core =>
    rw [perWatt]
    omega

theorem get_of_fits {unit : PowerUnit} {held : UInt32} (h : unit.milliwatts held < UInt32.size) :
    (unit.convert normalized held).toNat = unit.milliwatts held := by
  rw [toNat_get, Nat.min_eq_left (Nat.le_sub_one_of_lt h)]

theorem get_of_large {unit : PowerUnit} {held : UInt32} (h : UInt32.size ≤ unit.milliwatts held) :
    unit.convert normalized held = 0xFFFFFFFF := by
  rw [← UInt32.toNat_inj, toNat_get, Nat.min_eq_right (by omega)]
  rfl

theorem get_eq_greatest_iff {unit : PowerUnit} (h : unit ≠ .milliWatts) (held : UInt32) :
    unit.convert normalized held = 0xFFFFFFFF ↔ UInt32.size ≤ unit.milliwatts held := by
  refine ⟨fun hgreatest => Nat.le_of_not_lt fun hfits => ?_, get_of_large⟩
  have hshown := get_of_fits hfits
  rw [hgreatest] at hshown
  exact milliwatts_ne h held hshown.symm

/-! ## Readings written back -/

/-- How far a word lies above the readings that survive being written back: in thirty-seconds of a
watt these are the multiples of four, in any other unit all. -/
def surplus : PowerUnit → UInt32 → Nat
  | .atom, held => held.toNat % 4
  | _, _ => 0

theorem surplus_le (unit : PowerUnit) (held : UInt32) : unit.surplus held ≤ held.toNat := by
  cases unit <;> simp only [surplus] <;> omega

/-- The words without surplus are those that are whole milliwatts. -/
theorem surplus_eq_zero_iff (unit : PowerUnit) (held : UInt32) :
    unit.surplus held = 0 ↔ unit.perWatt ∣ held.toNat * 1000 := by
  cases unit <;> simp only [surplus, perWatt, true_iff] <;> omega

/-- A word that was read and written back. -/
def writtenBack (unit : PowerUnit) (held : UInt32) : UInt32 :=
  normalized.convert unit (unit.convert normalized held)

theorem toNat_writtenBack {unit : PowerUnit} {held : UInt32}
    (h : unit.milliwatts held < UInt32.size) :
    (unit.writtenBack held).toNat = held.toNat - min 1 (unit.surplus held) := by
  have hback : (unit.writtenBack held).toNat =
      rescale unit.perWatt 1000 (rescale 1000 unit.perWatt held.toNat) := by
    rw [writtenBack, toNat_set, get_of_fits h, milliwatts, rescale, rescale, rescale]
  have hiff := rescale_back_iff (by decide : 0 < 1000) unit.perWatt held.toNat
  rw [← surplus_eq_zero_iff, ← hback] at hiff
  by_cases hwhole : unit.surplus held = 0
  · rw [hiff.mpr hwhole, hwhole]
    rfl
  · -- Both remainders are below a thousand, so that less than two is lost.
    have hlost := rescale_lost_le (by decide : 0 < 1000) unit.perWatt_pos held.toNat
    have hle := rescale_back_le (by decide : 0 < 1000) unit.perWatt held.toNat
    have hgcd := Nat.gcd_pos_of_pos_left unit.perWatt (by decide : 0 < 1000)
    have hper := unit.perWatt_le
    have hne : (unit.writtenBack held).toNat ≠ held.toNat := fun hsame => hwhole (hiff.mp hsame)
    rw [← hback] at hlost hle
    omega

theorem writtenBack_fits {unit : PowerUnit} {held : UInt32}
    (h : unit.milliwatts held < UInt32.size) :
    unit.milliwatts (unit.writtenBack held) < UInt32.size := by
  have hback := toNat_writtenBack h
  exact Nat.lt_of_le_of_lt (rescale_mono 1000 unit.perWatt (by omega)) h

theorem surplus_writtenBack {unit : PowerUnit} {held : UInt32}
    (h : unit.milliwatts held < UInt32.size) :
    unit.surplus (unit.writtenBack held) = unit.surplus held - 1 := by
  have hback := toNat_writtenBack h
  cases unit <;> simp only [surplus] at hback ⊢
  omega

theorem writtenBack_iterate {unit : PowerUnit} (n : Nat) {held : UInt32}
    (h : unit.milliwatts held < UInt32.size) :
    (unit.writtenBack^[n] held).toNat = held.toNat - min n (unit.surplus held) := by
  induction n generalizing held with
  | zero =>
    rw [Nat.zero_min]
    rfl
  | succ n ih =>
    have hback := toNat_writtenBack h
    rw [Function.iterate_succ_apply, ih (writtenBack_fits h), surplus_writtenBack h, hback]
    omega

end PowerUnit

/-! ## By algorithm -/

/-- The unit in which the hardware counts power; none when the algorithm names none. Without a unit
of its own it counts in the caller's milliwatts. -/
def Algorithm.powerUnit? (a : Algorithm) : Option PowerUnit :=
  match ConversionKind.ofCode? a.power with
  | some .powerDeciWatts => some .deciWatts
  | some .powerMilliWatts => some .milliWatts
  | some .powerNone => some .milliWatts
  | some .powerAtom => some .atom
  | some .powerCore => some .core
  | _ => none

/-- Between the hardware's unit and the caller's, in the direction of the opcode. -/
def PowerUnit.transfer (hardware caller : PowerUnit) (opcode : Opcode) (word : UInt32) : UInt32 :=
  match opcode with
  | .get => convert hardware caller word
  | .set => convert caller hardware word

section
variable {a : Algorithm} {unit : PowerUnit}

/-- An algorithm without a unit names no power, whether or not its code is a kind. -/
theorem convertPower_eq (a : Algorithm) (actionType : ActionType) (opcode : Opcode)
    (word : UInt32) :
    convertPower .normalized word actionType (some a) opcode =
      match a.powerUnit? with
      | none => .error (.unsupportedAlgorithm a.power)
      | some unit => .ok (unit.transfer .normalized opcode word) := by
  have hrequire : requireAlgorithm actionType (some a) = .ok a := rfl
  have hself : PowerUnit.convert .milliWatts .milliWatts word = word := if_pos (.inr rfl)
  simp only [convertPower, hrequire, Algorithm.kindOf, Algorithm.powerUnit?, bind, Except.bind]
  cases hkind : ConversionKind.ofCode? a.power with
  | none => rfl
  | some kind =>
    rw [← ConversionKind.code_of_ofCode? hkind]
    cases kind <;> cases opcode <;>
      simp only [PowerUnit.transfer, PowerUnit.normalized, hself] <;> rfl

theorem convertPower_of_unit (hunit : a.powerUnit? = some unit) (actionType : ActionType)
    (opcode : Opcode) (word : UInt32) :
    convertPower .normalized word actionType (some a) opcode =
      .ok (unit.transfer .normalized opcode word) := by
  rw [convertPower_eq, hunit]

/-! ## Set, then get -/

/-- A limit comes back no greater than it was set, and less by no more than a step of the hardware's
unit. Both directions keep the order. What is shown is the exact value rounded down, cut off at the
greatest word just when it does not fit; 64 bits hold every number on the way. -/
theorem limit_never_exceeded (hunit : a.powerUnit? = some unit) (actionType : ActionType) :
    (∀ limit : UInt32, ∃ held shown,
      convertPower .normalized limit actionType (some a) .set = .ok held ∧
      convertPower .normalized held actionType (some a) .get = .ok shown ∧
      shown ≤ limit ∧ limit.toNat - shown.toNat < unit.milliwattStep) ∧
    (∀ (opcode : Opcode) (v w : UInt32), v ≤ w → ∃ v' w',
      convertPower .normalized v actionType (some a) opcode = .ok v' ∧
      convertPower .normalized w actionType (some a) opcode = .ok w' ∧ v' ≤ w') ∧
    (∀ held : UInt32, ∃ shown,
      convertPower .normalized held actionType (some a) .get = .ok shown ∧
      (unit.milliwatts held < UInt32.size → shown.toNat = unit.milliwatts held) ∧
      (UInt32.size ≤ unit.milliwatts held → shown = 0xFFFFFFFF) ∧
      (unit ≠ .milliWatts → (shown = 0xFFFFFFFF ↔ UInt32.size ≤ unit.milliwatts held))) ∧
    ∀ (input output : PowerUnit) (v : UInt32),
      PowerUnit.convert64? input output v = some (input.convert output v) := by
  refine ⟨fun limit => ⟨_, _, convertPower_of_unit hunit actionType .set limit,
      convertPower_of_unit hunit actionType .get _, unit.get_set_le limit,
      unit.get_set_near limit⟩,
    fun opcode v w h => ⟨_, _, convertPower_of_unit hunit actionType opcode v,
      convertPower_of_unit hunit actionType opcode w, ?_⟩,
    fun held => ⟨_, convertPower_of_unit hunit actionType .get held, PowerUnit.get_of_fits,
      PowerUnit.get_of_large, fun hother => PowerUnit.get_eq_greatest_iff hother held⟩,
    PowerUnit.convert64?_eq⟩
  cases opcode with
  | get => exact PowerUnit.convert_mono unit .normalized h
  | set => exact PowerUnit.convert_mono .normalized unit h

/-! ## Get, then set -/

/-- What the hardware holds after its limit was read and written back so many times. -/
def rewritten (a : Algorithm) (actionType : ActionType) : Nat → UInt32 → Except Fault UInt32
  | 0, held => .ok held
  | n + 1, held => do
    let shown ← convertPower .normalized held actionType (some a) .get
    let back ← convertPower .normalized shown actionType (some a) .set
    rewritten a actionType n back

theorem rewritten_eq (hunit : a.powerUnit? = some unit) (actionType : ActionType) (n : Nat)
    (held : UInt32) :
    rewritten a actionType n held = .ok (unit.writtenBack^[n] held) := by
  induction n generalizing held with
  | zero => rfl
  | succ n ih =>
    simp only [rewritten, convertPower_of_unit hunit, bind, Except.bind]
    exact ih (unit.writtenBack held)

/-- A reading that is not cut off is written back as the word it came from unless that word has a
surplus. Read and written back again and again, a word loses one each time until its surplus is
gone, and then stays as it is. -/
theorem limit_settles (hunit : a.powerUnit? = some unit) (actionType : ActionType) (held : UInt32)
    (hfits : unit.milliwatts held < UInt32.size) :
    (∃ shown back, convertPower .normalized held actionType (some a) .get = .ok shown ∧
      convertPower .normalized shown actionType (some a) .set = .ok back ∧
      (back = held ↔ unit.surplus held = 0)) ∧
    ∀ n, ∃ back, rewritten a actionType n held = .ok back ∧
      back.toNat = held.toNat - min n (unit.surplus held) := by
  refine ⟨⟨_, _, convertPower_of_unit hunit actionType .get held,
    convertPower_of_unit hunit actionType .set _, ?_⟩,
    fun n => ⟨_, rewritten_eq hunit actionType n held, PowerUnit.writtenBack_iterate n hfits⟩⟩
  have hback := PowerUnit.toNat_writtenBack hfits
  have hle := unit.surplus_le held
  change unit.writtenBack held = held ↔ _
  rw [← UInt32.toNat_inj, hback]
  omega

end

namespace Sample

/-- An algorithm for one kind of power. -/
def powerMeter (kind : ConversionKind) : Algorithm := ⟨.msr, 6, 0, 0, kind.code, 8, 28⟩

def milliwattsBy (kind : ConversionKind) (held : UInt32) : Except Fault UInt32 :=
  convertPower .normalized held .msr (some (powerMeter kind)) .get

def limitBy (kind : ConversionKind) (limit : UInt32) : Except Fault UInt32 :=
  convertPower .normalized limit .msr (some (powerMeter kind)) .set

/-- In thirty-seconds of a watt 124 milliwatts lose as much as any limit can, and the greatest word
is cut off. -/
theorem limit_loses_most :
    (powerMeter .powerAtom).powerUnit? = some .atom ∧
      (∃ held shown, limitBy .powerAtom 124 = .ok held ∧ milliwattsBy .powerAtom held = .ok shown ∧
        shown ≤ 124 ∧ (124 : UInt32).toNat - shown.toNat < 32) ∧
      (∃ v w, limitBy .powerAtom 31 = .ok v ∧ limitBy .powerAtom 32 = .ok w ∧ v ≤ w) ∧
      UInt32.size ≤ PowerUnit.atom.milliwatts 0xFFFFFFFF ∧
      (∃ shown, milliwattsBy .powerAtom 0xFFFFFFFF = .ok shown ∧ shown = 0xFFFFFFFF) ∧
      PowerUnit.convert64? .atom .milliWatts 0xFFFFFFFF =
        some (PowerUnit.atom.convert .milliWatts 0xFFFFFFFF) := by
  have hunit : (powerMeter .powerAtom).powerUnit? = some .atom := by decide
  have hlarge : UInt32.size ≤ PowerUnit.atom.milliwatts 0xFFFFFFFF := by decide
  obtain ⟨hlost, hmono, hcut, h64⟩ := limit_never_exceeded hunit .msr
  obtain ⟨shown, hget, -, hgreatest, -⟩ := hcut 0xFFFFFFFF
  exact ⟨hunit, hlost 124, hmono .set 31 32 (by decide), hlarge, ⟨shown, hget, hgreatest hlarge⟩,
    h64 .atom .milliWatts 0xFFFFFFFF⟩

/-- Seven thirty-seconds of a watt are four after the third time, and after the fifth. -/
theorem seven_settles_at_four :
    (powerMeter .powerAtom).powerUnit? = some .atom ∧
      PowerUnit.atom.milliwatts 7 < UInt32.size ∧
      (∃ back, rewritten (powerMeter .powerAtom) .msr 3 7 = .ok back ∧ back.toNat = 4) ∧
      ∃ back, rewritten (powerMeter .powerAtom) .msr 5 7 = .ok back ∧ back.toNat = 4 := by
  have hunit : (powerMeter .powerAtom).powerUnit? = some .atom := by decide
  have hfits : PowerUnit.atom.milliwatts 7 < UInt32.size := by decide
  have hsettles := (limit_settles hunit .msr 7 hfits).2
  exact ⟨hunit, hfits, hsettles 3, hsettles 5⟩

/-- A thirty-second of a watt is read as 31 milliwatts, which are written back as nothing. -/
theorem least_limit_lost :
    (powerMeter .powerAtom).powerUnit? = some .atom ∧
      PowerUnit.atom.milliwatts 1 < UInt32.size ∧
      milliwattsBy .powerAtom 1 = .ok 31 ∧ limitBy .powerAtom 31 = .ok 0 ∧ (0 : UInt32) ≠ 1 := by
  have hunit : (powerMeter .powerAtom).powerUnit? = some .atom := by decide
  have hshown : PowerUnit.atom.transfer .normalized .get 1 = 31 := by decide
  have hback : PowerUnit.atom.transfer .normalized .set 31 = 0 := by decide
  refine ⟨hunit, by decide, ?_, ?_, by decide⟩
  · rw [milliwattsBy, convertPower_of_unit hunit, hshown]
  · rw [limitBy, convertPower_of_unit hunit, hback]

end Sample

end DeviceSupport
