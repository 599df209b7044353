import DeviceSupport.Units.Temperature
import Mathlib.Algebra.Group.Int.Defs
import Mathlib.Algebra.Group.Nat.Defs

/-! Conversions between temperature units as rounding.

A unit counts steps from the zero of its scale, so each of its values stands for a temperature in
thousandths of a Kelvin (`millikelvin`). Away from zero, converting picks the value of the new unit
whose temperature is nearest, the upper one where two are equally near (`nearest_convert`). That
determines the result and makes it monotone; zero, which no conversion moves between the scales, is
the only exception to both. -/
namespace DeviceSupport
set_option autoImplicit false

/-! ## Nearest multiples -/

/-- Of the multiples of `d`, `r * d` is nearest to `m`; where two are equally near, it is the upper
one. Doubled, so that the half of an odd `d` is exact. -/
structure Nearest (d m r : Int) : Prop where
  low : -d ≤ 2 * (m - r * d)
  high : 2 * (m - r * d) < d

namespace Nearest
variable {d m m' r r' : Int}

theorem iff_ediv (hd : 0 < d) : Nearest d m r ↔ (m + d / 2) / d = r := by
  rw [Int.ediv_eq_iff_of_pos hd]
  constructor
  · intro h
    have hlow := h.low
    have hhigh := h.high
    omega
  · rintro ⟨hlow, hhigh⟩
    constructor <;> omega

theorem mono (hd : 0 < d) (h : Nearest d m r) (h' : Nearest d m' r') (hle : m ≤ m') : r ≤ r' := by
  rw [← (iff_ediv hd).mp h, ← (iff_ediv hd).mp h']
  exact Int.ediv_le_ediv hd (by omega)

theorem eq_of_one (h : Nearest 1 m r) : r = m := by
  have hlow := h.low
  have hhigh := h.high
  omega

end Nearest

/-! ## Numbers of 64 bits -/

/-- The number, if a signed word of 64 bits holds it. -/
def int64? (x : Int) : Option Int :=
  if -2 ^ 63 ≤ x ∧ x < 2 ^ 63 then some x else none

theorem int64?_of_natAbs_lt {x : Int} (h : x.natAbs < 2 ^ 63) : int64? x = some x :=
  if_pos (by omega)

/-! ## Temperatures -/

namespace TemperatureUnit

/-- The zero of the unit's scale, in thousandths of a Kelvin. -/
def origin (unit : TemperatureUnit) : Int := if unit.isKelvin then 0 else 273200

/-- The temperature that a value stands for, in thousandths of a Kelvin. -/
def millikelvin (unit : TemperatureUnit) (value : Int) : Int := value * unit.step + unit.origin

/-- The temperature that a value stands for, in thousandths of a degree on the scale of another
unit. -/
def exact (input output : TemperatureUnit) (value : Int) : Int :=
  input.millikelvin value - output.origin

theorem step_pos (unit : TemperatureUnit) : 0 < unit.step := by cases unit <;> decide

theorem step_le (unit : TemperatureUnit) : unit.step ≤ 1000 := by cases unit <;> decide

theorem origin_cases (unit : TemperatureUnit) : unit.origin = 0 ∨ unit.origin = 273200 := by
  unfold origin
  cases unit.isKelvin <;> simp

theorem shift_eq (input output : TemperatureUnit) :
    shift input output = input.origin - output.origin := by
  unfold shift origin
  cases input.isKelvin <;> cases output.isKelvin <;> rfl

theorem exact_eq (input output : TemperatureUnit) (v : Int) :
    exact input output v = v * input.step + shift input output := by
  rw [shift_eq, exact, millikelvin]
  omega

theorem nearest_exact_iff {input output : TemperatureUnit} {v r : Int} :
    Nearest output.step (exact input output v) r ↔
      -output.step ≤ 2 * (input.millikelvin v - output.millikelvin r) ∧
        2 * (input.millikelvin v - output.millikelvin r) < output.step := by
  have hdiff : exact input output v - r * output.step =
      input.millikelvin v - output.millikelvin r := by
    rw [exact, millikelvin, millikelvin]
    omega
  rw [← hdiff]
  exact ⟨fun h => ⟨h.low, h.high⟩, fun h => ⟨h.1, h.2⟩⟩

/-! ## Conversions -/

theorem convert_zero (input output : TemperatureUnit) : convert input output 0 = 0 :=
  if_pos (.inl rfl)

theorem convert_self (unit : TemperatureUnit) (v : Int) : convert unit unit v = v :=
  if_pos (.inr rfl)

/-- A unit that is converted to itself is no exception to the rounding. -/
theorem convert_of_ne_zero (input output : TemperatureUnit) {v : Int} (hv : v ≠ 0) :
    convert input output v = (exact input output v + output.step / 2) / output.step := by
  by_cases hunits : input = output
  · subst hunits
    have hpos := input.step_pos
    have hexact : exact input input v = v * input.step := by
      rw [exact, millikelvin]
      omega
    rw [convert_self, hexact, Int.add_comm, Int.add_mul_ediv_right _ _ (Int.ne_of_gt hpos),
      Int.ediv_eq_zero_of_lt (by omega) (by omega), Int.zero_add]
  · rw [convert, if_neg (by simp [hv, hunits]), exact_eq]

theorem convert_eq_iff (input output : TemperatureUnit) {v : Int} (hv : v ≠ 0) (r : Int) :
    convert input output v = r ↔ Nearest output.step (exact input output v) r := by
  rw [convert_of_ne_zero input output hv, Nearest.iff_ediv output.step_pos]

theorem nearest_convert (input output : TemperatureUnit) {v : Int} (hv : v ≠ 0) :
    Nearest output.step (exact input output v) (convert input output v) :=
  (convert_eq_iff input output hv _).mp rfl

theorem exact_mono (input output : TemperatureUnit) {v w : Int} (h : v ≤ w) :
    exact input output v ≤ exact input output w := by
  have hscaled : v * input.step ≤ w * input.step :=
    Int.mul_le_mul_of_nonneg_right h (Int.le_of_lt input.step_pos)
  rw [exact, exact, millikelvin, millikelvin]
  omega

theorem convert_mono (input output : TemperatureUnit) {v w : Int} (hv : v ≠ 0) (hw : w ≠ 0)
    (h : v ≤ w) : convert input output v ≤ convert input output w :=
  (nearest_convert input output hv).mono output.step_pos (nearest_convert input output hw)
    (exact_mono input output h)

/-! ## In 64 bits -/

/-- A conversion in signed words of 64 bits, step by step; none when a number on the way does not
fit. -/
def convertInt64? (input output : TemperatureUnit) (value : Int) : Option Int :=
  if value = 0 ∨ input = output then some value
  else do
    let scaled ← int64? (value * input.step)
    let shifted ← int64? (scaled + shift input output)
    let raised ← int64? (shifted + output.step / 2)
    int64? (raised / output.step)

theorem natAbs_shift_le (input output : TemperatureUnit) :
    (shift input output).natAbs ≤ 273200 := by
  rw [shift_eq]
  have hinput := input.origin_cases
  have houtput := output.origin_cases
  omega

/-- Only the product can be large: what is added to it is less than three hundred degrees. -/
theorem convertInt64?_of_scaled (input output : TemperatureUnit) {v : Int}
    (h : (v * input.step).natAbs + 273700 < 2 ^ 63) :
    convertInt64? input output v = some (convert input output v) := by
  unfold convertInt64? convert
  split
  · rfl
  · have hshift := natAbs_shift_le input output
    have hpos := output.step_pos
    have hstep := output.step_le
    have hdiv := Int.natAbs_ediv_le_natAbs
      (v * input.step + shift input output + output.step / 2) output.step
    have hscaled : int64? (v * input.step) = some (v * input.step) :=
      int64?_of_natAbs_lt (by omega)
    have hshifted : int64? (v * input.step + shift input output) =
        some (v * input.step + shift input output) := int64?_of_natAbs_lt (by omega)
    have hraised : int64? (v * input.step + shift input output + output.step / 2) =
        some (v * input.step + shift input output + output.step / 2) :=
      int64?_of_natAbs_lt (by omega)
    simp only [hscaled, hshifted, hraised, Option.bind_eq_bind, Option.bind_some]
    exact int64?_of_natAbs_lt (by omega)

theorem natAbs_mul_step_le (unit : TemperatureUnit) (v : Int) :
    (v * unit.step).natAbs ≤ v.natAbs * 1000 := by
  rw [Int.natAbs_mul]
  refine Nat.mul_le_mul_left _ ?_
  have hpos := unit.step_pos
  have hstep := unit.step_le
  omega

theorem convertInt64?_of_natAbs_le (input output : TemperatureUnit) {v : Int}
    (h : v.natAbs ≤ 2 ^ 53) : convertInt64? input output v = some (convert input output v) := by
  have hscaled := input.natAbs_mul_step_le v
  exact convertInt64?_of_scaled input output (by omega)

/-! ## The rule -/

/-- A conversion away from zero is the value nearest to the exact temperature, a half going up, and
exact in thousandths; it keeps the order of what is converted; and 64 bits hold every number on the
way from a value of at most 2 ^ 53. -/
theorem convert_rounds (input output : TemperatureUnit) :
    (∀ v : Int, v ≠ 0 → ∀ r : Int,
      convert input output v = r ↔ Nearest output.step (exact input output v) r) ∧
    (∀ v : Int, v ≠ 0 → output.step = 1 → convert input output v = exact input output v) ∧
    (∀ v w : Int, v ≠ 0 → w ≠ 0 → v ≤ w → convert input output v ≤ convert input output w) ∧
    (∀ v : Int, v.natAbs ≤ 2 ^ 53 →
      convertInt64? input output v = some (convert input output v)) := by
  refine ⟨fun v hv r => convert_eq_iff input output hv r, fun v hv hone => ?_,
    fun v w hv hw h => convert_mono input output hv hw h,
    fun v h => convertInt64?_of_natAbs_le input output h⟩
  have hnearest := nearest_convert input output hv
  rw [hone] at hnearest
  exact hnearest.eq_of_one

/-- A half goes up below zero too; a unit in thousandths is exact; the order holds across zero; and
64 bits hold the way of a large value. -/
theorem halves_go_up :
    milliCelsius.convert celsius (-1500) = -1 ∧
      centiKelvin.convert milliCelsius (-27321) = exact centiKelvin milliCelsius (-27321) ∧
      kelvin.convert deciCelsius (-1) ≤ kelvin.convert deciCelsius 1 ∧
      kelvin.convertInt64? milliCelsius (2 ^ 53) = some (kelvin.convert milliCelsius (2 ^ 53)) :=
  ⟨((convert_rounds milliCelsius celsius).1 (-1500) (by decide) (-1)).mpr
      ⟨by decide, by decide⟩,
    (convert_rounds centiKelvin milliCelsius).2.1 (-27321) (by decide) rfl,
    (convert_rounds kelvin deciCelsius).2.2.1 (-1) 1 (by decide) (by decide) (by decide),
    (convert_rounds kelvin milliCelsius).2.2.2 (2 ^ 53) (by decide)⟩

end TemperatureUnit

end DeviceSupport
