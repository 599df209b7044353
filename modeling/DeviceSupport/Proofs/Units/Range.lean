import DeviceSupport.Proofs.Units.Reading

/-! Temperatures that no word holds.

64 bits hold every number on the way from one word to another (`resultInt64?_eq`), so what a
conversion returns is exact up to its last step, where the result is cut down to a word. That keeps
the results that fit, and `admits_iff` tells from the word which these are. Any other is not refused:
it wraps to another temperature (`results_fit_or_wrap`). -/
namespace DeviceSupport
set_option autoImplicit false

namespace Gauge

/-- What a number becomes by the formula of the gauge, in the direction of the opcode. -/
def result (g : Gauge) (opcode : Opcode) (x : Int) : Int :=
  match opcode with
  | .get => g.shown x
  | .set => g.stored x

/-- The numbers whose result fits a word, among those that fit one themselves. -/
def Admits (g : Gauge) (opcode : Opcode) (x : Int) : Prop :=
  match g, opcode with
  | milliCelsius, .set => -2147483 ≤ x ∧ x ≤ 2147483
  | deciKelvin, .set => -214748638 ≤ x ∧ x ≤ 214748091
  | halfSteps, .set => -1073741874 ≤ x ∧ x ≤ 1073741773
  | belowMax max, _ => max - 2147483647 ≤ x ∧ x ≤ max + 2147483648
  | _, _ => True

/-- Readings in finer steps than degrees all have a word in degrees; only a distance from a greatest
temperature may have none. -/
theorem admits_get {g : Gauge} {x : Int} (hx : FitsWord x) :
    FitsWord (g.result .get x) ↔ g.Admits .get x := by
  by_cases hwhole : g.Whole
  · obtain rfl | ⟨max, rfl⟩ := hwhole
    · exact iff_of_true hx trivial
    · rw [result, shown, FitsWord, Admits]
      omega
  · refine iff_of_true (fitsWord_shown_of_fits hwhole hx) ?_
    cases g with
    | belowMax max => exact absurd (.inr ⟨max, rfl⟩) hwhole
    | milliCelsius | deciKelvin | celsius | halfSteps => trivial

theorem admits_set {g : Gauge} {x : Int} (hx : FitsWord x) :
    FitsWord (g.result .set x) ↔ g.Admits .set x := by
  cases g with
  | milliCelsius =>
    rw [result, stored, TemperatureUnit.convert_milliCelsius, FitsWord, Admits]
    omega
  | deciKelvin =>
    by_cases hzero : x = 0
    · rw [hzero]
      exact iff_of_true (by decide) ⟨by decide, by decide⟩
    · rw [result, stored, TemperatureUnit.convert_deciKelvin hzero, FitsWord, Admits]
      omega
  | celsius => exact iff_of_true hx trivial
  | belowMax max =>
    rw [result, stored, FitsWord, Admits]
    omega
  | halfSteps =>
    rw [result, stored, FitsWord, Admits]
    omega

theorem admits_iff {g : Gauge} {x : Int} (hx : FitsWord x) (opcode : Opcode) :
    FitsWord (g.result opcode x) ↔ g.Admits opcode x := by
  cases opcode with
  | get => exact admits_get hx
  | set => exact admits_set hx

/-! ## In 64 bits -/

/-- The formula in signed words of 64 bits, step by step; none when a number on the way does not
fit. -/
def resultInt64? (g : Gauge) (opcode : Opcode) (x : Int) : Option Int :=
  match g, opcode with
  | milliCelsius, .get => TemperatureUnit.convertInt64? .milliCelsius .celsius x
  | milliCelsius, .set => TemperatureUnit.convertInt64? .celsius .milliCelsius x
  | deciKelvin, .get => TemperatureUnit.convertInt64? .deciKelvin .celsius x
  | deciKelvin, .set => TemperatureUnit.convertInt64? .celsius .deciKelvin x
  | celsius, _ => TemperatureUnit.convertInt64? .celsius .celsius x
  | belowMax max, .get => do
    let distance ← int64? (max - x)
    TemperatureUnit.convertInt64? .celsius .celsius distance
  | belowMax max, .set => do
    let degrees ← TemperatureUnit.convertInt64? .celsius .celsius x
    int64? (max - degrees)
  | halfSteps, .get => do
    let half ← int64? (x.tdiv 2)
    let degrees ← int64? (half - 50)
    TemperatureUnit.convertInt64? .celsius .celsius degrees
  | halfSteps, .set => do
    let degrees ← TemperatureUnit.convertInt64? .celsius .celsius x
    let doubled ← int64? (degrees * 2)
    int64? (doubled + 100)

/-- The greatest temperature comes from a word too. -/
theorem resultInt64?_eq {g : Gauge} (hmax : ∀ max, g = belowMax max → FitsWord max) {x : Int}
    (hx : FitsWord x) (opcode : Opcode) :
    g.resultInt64? opcode x = some (g.result opcode x) := by
  obtain ⟨hlow, hhigh⟩ := hx
  have hunits (input output : TemperatureUnit) :
      TemperatureUnit.convertInt64? input output x = some (input.convert output x) :=
    TemperatureUnit.convertInt64?_of_natAbs_le input output (by omega)
  have hsame (v : Int) : TemperatureUnit.convertInt64? .celsius .celsius v = some v :=
    if_pos (.inr rfl)
  have hhalf := two_mul_tdiv_two x
  cases g with
  | milliCelsius => cases opcode <;> exact hunits _ _
  | deciKelvin => cases opcode <;> exact hunits _ _
  | celsius => cases opcode <;> exact hsame x
  | belowMax max =>
    obtain ⟨hlowest, hgreatest⟩ := hmax max rfl
    have hdistance : int64? (max - x) = some (max - x) := int64?_of_natAbs_lt (by omega)
    cases opcode <;>
      simp only [resultInt64?, hsame, hdistance, Option.bind_eq_bind, Option.bind_some] <;> rfl
  | halfSteps =>
    have hsteps : int64? (x.tdiv 2) = some (x.tdiv 2) := int64?_of_natAbs_lt (by omega)
    have hdegrees : int64? (x.tdiv 2 - 50) = some (x.tdiv 2 - 50) :=
      int64?_of_natAbs_lt (by omega)
    have hdoubled : int64? (x * 2) = some (x * 2) := int64?_of_natAbs_lt (by omega)
    have hraised : int64? (x * 2 + 100) = some (x * 2 + 100) := int64?_of_natAbs_lt (by omega)
    cases opcode <;> simp only [resultInt64?, hsame, hsteps, hdegrees, hdoubled, hraised,
      Option.bind_eq_bind, Option.bind_some] <;> rfl

end Gauge

theorem Algorithm.fitsWord_max {a : Algorithm} {g : Gauge} (hg : a.gauge? = some g) (max : Int)
    (h : g = .belowMax max) : FitsWord max := by
  subst h
  unfold gauge? at hg
  split at hg <;> cases hg
  exact fitsWord_signedOfWord a.constant1

/-- A conversion returns the exact result of its formula when that fits a word, and the gauge tells
for which words it does. Any other result is not refused but wraps: what is returned then differs
from it by a multiple of the size of a word. No number on the way needs more than 64 bits, and an
algorithm that names no temperature converts nothing. -/
theorem results_fit_or_wrap (a : Algorithm) (actionType : ActionType) (opcode : Opcode)
    (word : UInt32) :
    (a.gauge? = none → convertTemperature .normalized word actionType (some a) opcode =
      .error (.unsupportedAlgorithm a.temperature)) ∧
    ∀ g, a.gauge? = some g →
      ∃ w, convertTemperature .normalized word actionType (some a) opcode = .ok w ∧
        g.resultInt64? opcode (signedOfWord word) = some (g.result opcode (signedOfWord word)) ∧
        (signedOfWord w = g.result opcode (signedOfWord word) ↔
          g.Admits opcode (signedOfWord word)) ∧
        signedOfWord w = (g.result opcode (signedOfWord word)).bmod 4294967296 := by
  refine ⟨fun hnone => by rw [convertTemperature_eq, hnone], fun g hg => ?_⟩
  have hword := fitsWord_signedOfWord word
  refine ⟨wordOfSigned (g.result opcode (signedOfWord word)), ?_,
    Gauge.resultInt64?_eq (a.fitsWord_max hg) hword opcode, ?_, signedOfWord_wordOfSigned _⟩
  · rw [convertTemperature_eq, hg]
    rfl
  · rw [signedOfWord_wordOfSigned_iff, Gauge.admits_iff hword]

namespace Sample

/-- The greatest whole degrees that thousandths have a word for are kept; a degree below the least
number is read as another temperature; and an algorithm for power converts no temperature. -/
theorem degrees_fit_or_wrap :
    (thermometer .temperatureMilliCelsius).gauge? = some .milliCelsius ∧
      (∃ w, storedBy .temperatureMilliCelsius 2147483 = .ok w ∧
        signedOfWord w = Gauge.milliCelsius.result .set (signedOfWord 2147483)) ∧
      (thermometer .temperatureBelowMax).gauge? = some (.belowMax (-2 ^ 31)) ∧
      (∃ w, shownBy .temperatureBelowMax 1 = .ok w ∧
        signedOfWord w ≠ (Gauge.belowMax (-2 ^ 31)).result .get (signedOfWord 1)) ∧
      (thermometer .powerCore).gauge? = none ∧
      storedBy .powerCore 1 = .error (.unsupportedAlgorithm ConversionKind.powerCore.code) := by
  have hmilli : (thermometer .temperatureMilliCelsius).gauge? = some .milliCelsius := by decide
  have hmax : (thermometer .temperatureBelowMax).gauge? = some (.belowMax (-2 ^ 31)) := by decide
  have hnone : (thermometer .powerCore).gauge? = none := by decide
  have hadmits : Gauge.milliCelsius.Admits .set (signedOfWord 2147483) := ⟨by decide, by decide⟩
  have houtside : ¬ (Gauge.belowMax (-2 ^ 31)).Admits .get (signedOfWord 1) := fun h =>
    absurd h.2 (by decide)
  obtain ⟨w, hw, -, hexact, -⟩ := (results_fit_or_wrap _ .msr .set 2147483).2 _ hmilli
  obtain ⟨w', hw', -, hexact', -⟩ := (results_fit_or_wrap _ .msr .get 1).2 _ hmax
  exact ⟨hmilli, ⟨w, hw, hexact.mpr hadmits⟩, hmax, ⟨w', hw', fun h => houtside (hexact'.mp h)⟩,
    hnone, (results_fit_or_wrap _ .msr .set 1).1 hnone⟩

/-- Three million degrees are stored as some 1.3 million degrees below zero. -/
theorem large_degrees_wrap :
    (thermometer .temperatureMilliCelsius).gauge? = some .milliCelsius ∧
      Gauge.milliCelsius.result .set (signedOfWord 3000000) = 3000000000 ∧
      storedBy .temperatureMilliCelsius 3000000 = .ok 3000000000 ∧
      signedOfWord 3000000000 = -1294967296 := by
  have hmilli : (thermometer .temperatureMilliCelsius).gauge? = some .milliCelsius := by decide
  have hstored : wordOfSigned (Gauge.milliCelsius.stored (signedOfWord 3000000)) = 3000000000 := by
    decide
  refine ⟨hmilli, by decide, ?_, by decide⟩
  rw [storedBy, convertTemperature_set hmilli, hstored]

end Sample

end DeviceSupport
