import DeviceSupport.Proofs.Units.Precision
import DeviceSupport.Proofs.Units.SignedWord

/-! How hardware counts temperatures.

A `Gauge` gives every reading a temperature. What a caller in whole degrees is shown of a reading
(`shown`) and what the hardware is given for whole degrees (`stored`) are numbers of any size here.
Whole degrees survive every gauge (`shown_stored`); a reading that is shown and written back stays
within half a degree, but for the ten readings in tenths of a Kelvin that are shown as zero, because
zero is stored as zero (`writtenBack`). A gauge in whole degrees only subtracts, so it loses nothing
even where its numbers outgrow a word. -/
namespace DeviceSupport
set_option autoImplicit false

/-! ## Degrees Celsius and finer units -/

namespace TemperatureUnit

theorem millikelvin_celsius (v : Int) : celsius.millikelvin v = v * 1000 + 273200 := rfl

theorem millikelvin_milliCelsius (v : Int) : milliCelsius.millikelvin v = v * 1 + 273200 := rfl

theorem millikelvin_deciKelvin (v : Int) : deciKelvin.millikelvin v = v * 100 + 0 := rfl

theorem convert_milliCelsius (c : Int) : celsius.convert milliCelsius c = 1000 * c := by
  by_cases hc : c = 0
  · rw [hc]
    rfl
  · have hsame : milliCelsius.millikelvin (celsius.convert milliCelsius c) =
        celsius.millikelvin c := millikelvin_convert (by decide) (by decide) hc
    rw [millikelvin_milliCelsius, millikelvin_celsius] at hsame
    omega

theorem convert_deciKelvin {c : Int} (hc : c ≠ 0) :
    celsius.convert deciKelvin c = 10 * c + 2732 := by
  have hsame : deciKelvin.millikelvin (celsius.convert deciKelvin c) = celsius.millikelvin c :=
    millikelvin_convert (by decide) (by decide) hc
  rw [millikelvin_deciKelvin, millikelvin_celsius] at hsame
  omega

/-- Whole degrees fit a word when tenths of a degree or finer steps do. -/
theorem fitsWord_convert_celsius {unit : TemperatureUnit} (h : unit.step ≤ 100) {x : Int}
    (hx : FitsWord x) : FitsWord (unit.convert celsius x) := by
  by_cases hzero : x = 0
  · rw [hzero, convert_zero]
    decide
  · obtain ⟨hlow, hhigh⟩ := nearest_exact_iff.mp (nearest_convert unit celsius hzero)
    obtain ⟨hmin, hmax⟩ := hx
    have hstep : celsius.step = 1000 := rfl
    have horigin := unit.origin_cases
    rw [millikelvin_celsius, millikelvin, hstep] at hlow hhigh
    rcases unit.step_cases with hunit | hunit | hunit | hunit <;>
      rw [hunit] at h hlow hhigh <;> constructor <;> omega

end TemperatureUnit

/-! ## Gauges -/

/-- How a piece of hardware counts temperatures. -/
inductive Gauge where
  | milliCelsius
  | deciKelvin
  | celsius
  /-- Degrees below a greatest temperature. -/
  | belowMax (max : Int)
  /-- Half-degree steps above -50 degrees. -/
  | halfSteps
  deriving DecidableEq, Repr

/-- The gauge that an algorithm names; none when it names no temperature. -/
def Algorithm.gauge? (a : Algorithm) : Option Gauge :=
  match ConversionKind.ofCode? a.temperature with
  | some .temperatureMilliCelsius => some .milliCelsius
  | some .temperatureDeciKelvin => some .deciKelvin
  | some .temperatureNone => some .celsius
  | some .temperatureBelowMax => some (.belowMax (signedOfWord a.constant1))
  | some .temperatureHalfSteps => some .halfSteps
  | _ => none

namespace Gauge

/-- The temperature that a reading stands for, in thousandths of a Kelvin. -/
def millikelvin : Gauge → Int → Int
  | milliCelsius, x => TemperatureUnit.milliCelsius.millikelvin x
  | deciKelvin, x => TemperatureUnit.deciKelvin.millikelvin x
  | celsius, x => TemperatureUnit.celsius.millikelvin x
  | belowMax max, x => TemperatureUnit.celsius.millikelvin (max - x)
  | halfSteps, x => TemperatureUnit.celsius.millikelvin (-50) + 500 * x

/-- The reading that stands for whole degrees. -/
def exact : Gauge → Int → Int
  | milliCelsius, c => 1000 * c
  | deciKelvin, c => 10 * c + 2732
  | celsius, c => c
  | belowMax max, c => max - c
  | halfSteps, c => 2 * (c + 50)

/-- The gauge counts whole degrees. -/
def Whole (g : Gauge) : Prop := g = celsius ∨ ∃ max, g = belowMax max

/-- What the caller is shown of a reading, as a number of any size. -/
def shown : Gauge → Int → Int
  | milliCelsius, x => TemperatureUnit.milliCelsius.convert .celsius x
  | deciKelvin, x => TemperatureUnit.deciKelvin.convert .celsius x
  | celsius, x => x
  | belowMax max, x => max - x
  | halfSteps, x => x.tdiv 2 - 50

/-- What the hardware is given for whole degrees, as a number of any size. -/
def stored : Gauge → Int → Int
  | milliCelsius, c => TemperatureUnit.celsius.convert .milliCelsius c
  | deciKelvin, c => TemperatureUnit.celsius.convert .deciKelvin c
  | celsius, c => c
  | belowMax max, c => max - c
  | halfSteps, c => c * 2 + 100

theorem millikelvin_exact (g : Gauge) (c : Int) :
    g.millikelvin (g.exact c) = TemperatureUnit.celsius.millikelvin c := by
  cases g <;> simp only [millikelvin, exact, TemperatureUnit.millikelvin_celsius,
    TemperatureUnit.millikelvin_milliCelsius, TemperatureUnit.millikelvin_deciKelvin] <;> omega

/-! ## Whole degrees through the hardware -/

theorem stored_zero : deciKelvin.stored 0 = 0 := TemperatureUnit.convert_zero _ _

/-- Only zero in tenths of a Kelvin is stored as something else than it is. -/
theorem stored_eq_exact {g : Gauge} {c : Int} (h : g = deciKelvin → c ≠ 0) :
    g.stored c = g.exact c := by
  cases g with
  | milliCelsius => exact TemperatureUnit.convert_milliCelsius c
  | deciKelvin => exact TemperatureUnit.convert_deciKelvin (h rfl)
  | celsius => rfl
  | belowMax max => rfl
  | halfSteps =>
    rw [stored, exact]
    omega

theorem stored_cases (g : Gauge) (c : Int) :
    g.stored c = g.exact c ∨ g = deciKelvin ∧ c = 0 ∧ g.stored c = 0 := by
  by_cases hzero : g = deciKelvin ∧ c = 0
  · obtain ⟨rfl, rfl⟩ := hzero
    exact .inr ⟨rfl, rfl, stored_zero⟩
  · exact .inl (stored_eq_exact fun hg hc => hzero ⟨hg, hc⟩)

theorem shown_stored (g : Gauge) (c : Int) : g.shown (g.stored c) = c := by
  cases g with
  | milliCelsius =>
    refine (TemperatureUnit.convert_back (by decide) c).mpr ?_
    rw [TemperatureUnit.convert_milliCelsius]
    omega
  | deciKelvin =>
    refine (TemperatureUnit.convert_back (by decide) c).mpr ?_
    by_cases hc : c = 0
    · exact .inr hc
    · rw [TemperatureUnit.convert_deciKelvin hc]
      omega
  | celsius => rfl
  | belowMax max =>
    rw [shown, stored]
    omega
  | halfSteps =>
    have hdouble : c * 2 + 100 = 2 * (c + 50) := by omega
    rw [shown, stored, hdouble, Int.mul_tdiv_cancel_left _ (by decide)]
    omega

theorem stored_shown {g : Gauge} (hg : g.Whole) (x : Int) : g.stored (g.shown x) = x := by
  rcases hg with rfl | ⟨max, rfl⟩
  · rfl
  · rw [stored, shown]
    omega

theorem stored_eq_shown {g : Gauge} (hg : g.Whole) : g.stored = g.shown := by
  rcases hg with rfl | ⟨max, rfl⟩ <;> rfl

/-- Through a gauge in whole degrees, numbers that are one word stay one word. -/
theorem shown_emod {g : Gauge} (hg : g.Whole) {x x' : Int}
    (h : x % 4294967296 = x' % 4294967296) :
    g.shown x % 4294967296 = g.shown x' % 4294967296 := by
  rcases hg with rfl | ⟨max, rfl⟩
  · exact h
  · rw [shown, shown]
    omega

/-- A word that went through it twice is the old word, whatever wrapped on the way. -/
theorem word_shown_shown {g : Gauge} (hg : g.Whole) (w : UInt32) :
    wordOfSigned (g.shown (signedOfWord (wordOfSigned (g.shown (signedOfWord w))))) = w := by
  have hback : g.shown (g.shown (signedOfWord w)) = signedOfWord w := by
    have hstored := stored_shown hg (signedOfWord w)
    rwa [stored_eq_shown hg] at hstored
  calc wordOfSigned (g.shown (signedOfWord (wordOfSigned (g.shown (signedOfWord w)))))
      = wordOfSigned (g.shown (g.shown (signedOfWord w))) :=
        wordOfSigned_congr (shown_emod hg (signedOfWord_wordOfSigned_emod _))
    _ = w := by rw [hback, wordOfSigned_signedOfWord]

/-! ## Readings written back -/

/-- The reading is one of the ten in tenths of a Kelvin that are shown as zero. -/
def Vanishing (g : Gauge) (x : Int) : Prop := g = deciKelvin ∧ 2727 ≤ x ∧ x ≤ 2736

instance (g : Gauge) (x : Int) : Decidable (g.Vanishing x) := inferInstanceAs (Decidable (_ ∧ _))

theorem shown_eq_zero_iff {x : Int} (hx : x ≠ 0) :
    deciKelvin.shown x = 0 ↔ deciKelvin.Vanishing x := by
  rw [shown, TemperatureUnit.convert_eq_iff _ _ hx, TemperatureUnit.nearest_exact_iff,
    TemperatureUnit.millikelvin_deciKelvin, TemperatureUnit.millikelvin_celsius, Vanishing]
  have hstep : TemperatureUnit.celsius.step = 1000 := rfl
  rw [hstep]
  constructor
  · rintro ⟨hlow, hhigh⟩
    exact ⟨rfl, by omega⟩
  · rintro ⟨-, hlow, hhigh⟩
    omega

theorem two_mul_tdiv_two (x : Int) : (2 * x.tdiv 2 - x).natAbs = x.natAbs % 2 := by
  have hparts := Int.mul_tdiv_add_tmod x 2
  have hrest : (x.tmod 2).natAbs = x.natAbs % 2 := Int.natAbs_tmod x 2
  omega

theorem stored_shown_halfSteps (x : Int) :
    (halfSteps.stored (halfSteps.shown x) - x).natAbs = x.natAbs % 2 := by
  rw [← two_mul_tdiv_two x, stored, shown]
  congr 1
  omega

theorem stored_shown_near {g : Gauge} {x : Int} (h : ¬ g.Vanishing x) :
    (g.millikelvin (g.stored (g.shown x)) - g.millikelvin x).natAbs ≤ 500 := by
  have hstep : TemperatureUnit.celsius.step = 1000 := rfl
  cases g with
  | milliCelsius =>
    have hnear := TemperatureUnit.coarser_near .milliCelsius .celsius (by decide) (by decide)
      (fun _ : TemperatureUnit.convert .milliCelsius .celsius x = 0 => .inr rfl)
    rw [millikelvin, millikelvin, stored, shown]
    omega
  | deciKelvin =>
    have hnear := TemperatureUnit.coarser_near .deciKelvin .celsius (by decide) (by decide)
      (fun hzero : TemperatureUnit.convert .deciKelvin .celsius x = 0 =>
        .inl (Decidable.byContradiction fun hx => h ((shown_eq_zero_iff hx).mp hzero)))
    rw [millikelvin, millikelvin, stored, shown]
    omega
  | celsius => simp [stored_shown (.inl rfl)]
  | belowMax max => simp [stored_shown (.inr ⟨max, rfl⟩)]
  | halfSteps =>
    have hhalf := stored_shown_halfSteps x
    rw [millikelvin, millikelvin]
    omega

theorem fitsWord_shown_of_fits {g : Gauge} (hg : ¬ g.Whole) {x : Int} (hx : FitsWord x) :
    FitsWord (g.shown x) := by
  cases g with
  | milliCelsius => exact TemperatureUnit.fitsWord_convert_celsius (by decide) hx
  | deciKelvin => exact TemperatureUnit.fitsWord_convert_celsius (by decide) hx
  | celsius => exact absurd (.inl rfl) hg
  | belowMax max => exact absurd (.inr ⟨max, rfl⟩) hg
  | halfSteps =>
    have hhalf := two_mul_tdiv_two x
    obtain ⟨hmin, hmax⟩ := hx
    rw [shown]
    constructor <;> omega

theorem fitsWord_shown {g : Gauge} (hg : ¬ g.Whole) {x : Int} (hx : x.natAbs ≤ 2 ^ 31 - 1001) :
    FitsWord (g.shown x) :=
  fitsWord_shown_of_fits hg ⟨by omega, by omega⟩

/-- Half a degree in whole steps of the gauge. -/
def halfDegree : Gauge → Nat
  | milliCelsius => 500
  | deciKelvin => 5
  | celsius => 0
  | belowMax _ => 0
  | halfSteps => 1

/-- What a reading becomes when it is shown to the caller and written back. -/
structure WrittenBack (g : Gauge) (reading shown back : Int) : Prop where
  near : ¬ g.Vanishing reading → (back - reading).natAbs ≤ g.halfDegree
  even : g = halfSteps → reading % 2 = 0 → back = reading
  vanishing : g.Vanishing reading → shown = 0 ∧ back = 0
  zero : g = deciKelvin → shown = 0 → reading = 0 ∨ g.Vanishing reading

theorem writtenBack_of_whole {g : Gauge} (hg : g.Whole) (reading shown : Int) :
    g.WrittenBack reading shown reading := by
  have hkelvin : g ≠ deciKelvin := by
    rcases hg with rfl | ⟨max, rfl⟩ <;> exact nofun
  exact ⟨fun _ => by omega, fun _ _ => rfl, fun h => absurd h.1 hkelvin,
    fun h => absurd h hkelvin⟩

theorem writtenBack (g : Gauge) (x : Int) : g.WrittenBack x (g.shown x) (g.stored (g.shown x)) := by
  constructor
  case near =>
    intro h
    have hnear := stored_shown_near h
    cases g <;> simp only [millikelvin, TemperatureUnit.millikelvin_milliCelsius,
      TemperatureUnit.millikelvin_deciKelvin, TemperatureUnit.millikelvin_celsius,
      halfDegree] at hnear ⊢ <;> omega
  case even =>
    rintro rfl heven
    have hhalf := stored_shown_halfSteps x
    omega
  case vanishing =>
    rintro ⟨rfl, hlow, hhigh⟩
    have hzero : deciKelvin.shown x = 0 := (shown_eq_zero_iff (by omega)).mpr ⟨rfl, hlow, hhigh⟩
    exact ⟨hzero, hzero ▸ stored_zero⟩
  case zero =>
    rintro rfl hzero
    exact Decidable.or_iff_not_imp_left.mpr fun hx => (shown_eq_zero_iff hx).mp hzero

theorem halfDegree_le (g : Gauge) : g.halfDegree ≤ 500 := by
  cases g <;> simp only [halfDegree] <;> omega

theorem fitsWord_stored_shown (g : Gauge) {x : Int} (hx : x.natAbs ≤ 2 ^ 31 - 1001) :
    FitsWord (g.stored (g.shown x)) := by
  have hback := g.writtenBack x
  by_cases hvanishing : g.Vanishing x
  · rw [(hback.vanishing hvanishing).2]
    decide
  · have hnear := hback.near hvanishing
    have hhalf := g.halfDegree_le
    constructor <;> omega

end Gauge

end DeviceSupport
