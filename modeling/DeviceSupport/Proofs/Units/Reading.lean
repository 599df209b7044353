import DeviceSupport.Proofs.Units.Gauge

/-! Temperatures between a caller and the hardware, as words.

An algorithm that names a gauge converts by it, and any other is refused (`convertTemperature_eq`).
The words carry the numbers of the gauge wherever these fit, which settles both round trips: set and
then get for whole degrees (`degrees_come_back`), get and then set for readings
(`readings_written_back`). -/
namespace DeviceSupport
set_option autoImplicit false

/-! ## Words by an algorithm -/

section
variable {a : Algorithm} {g : Gauge}

/-- An algorithm without a gauge names no temperature, whether or not its code is a kind. -/
theorem convertTemperature_eq (a : Algorithm) (actionType : ActionType) (opcode : Opcode)
    (word : UInt32) :
    convertTemperature .normalized word actionType (some a) opcode =
      match a.gauge? with
      | none => .error (.unsupportedAlgorithm a.temperature)
      | some g => .ok (wordOfSigned (match opcode with
        | .get => g.shown (signedOfWord word)
        | .set => g.stored (signedOfWord word))) := by
  have hrequire : requireAlgorithm actionType (some a) = .ok a := rfl
  simp only [convertTemperature, hrequire, Algorithm.kindOf, Algorithm.gauge?, bind, Except.bind]
  cases hkind : ConversionKind.ofCode? a.temperature with
  | none => rfl
  | some kind =>
    rw [← ConversionKind.code_of_ofCode? hkind]
    cases kind <;> cases opcode <;>
      simp only [Gauge.shown, Gauge.stored, TemperatureUnit.transfer, TemperatureUnit.normalized,
        TemperatureUnit.convert_self] <;> rfl

theorem convertTemperature_get (hg : a.gauge? = some g) (actionType : ActionType) (word : UInt32) :
    convertTemperature .normalized word actionType (some a) .get =
      .ok (wordOfSigned (g.shown (signedOfWord word))) := by
  rw [convertTemperature_eq, hg]

theorem convertTemperature_set (hg : a.gauge? = some g) (actionType : ActionType) (word : UInt32) :
    convertTemperature .normalized word actionType (some a) .set =
      .ok (wordOfSigned (g.stored (signedOfWord word))) := by
  rw [convertTemperature_eq, hg]

theorem whole_words (hg : a.gauge? = some g) (hwhole : g.Whole) (actionType : ActionType)
    (word : UInt32) :
    (∃ stored, convertTemperature .normalized word actionType (some a) .set = .ok stored ∧
      convertTemperature .normalized stored actionType (some a) .get = .ok word) ∧
    ∃ shown, convertTemperature .normalized word actionType (some a) .get = .ok shown ∧
      convertTemperature .normalized shown actionType (some a) .set = .ok word := by
  refine ⟨⟨_, convertTemperature_set hg actionType word, ?_⟩,
    ⟨_, convertTemperature_get hg actionType word, ?_⟩⟩
  · rw [convertTemperature_get hg, Gauge.stored_eq_shown hwhole, Gauge.word_shown_shown hwhole]
  · rw [convertTemperature_set hg, Gauge.stored_eq_shown hwhole, Gauge.word_shown_shown hwhole]

/-! ## Set, then get -/

/-- Whole degrees come back as they were written when the hardware's reading of them fits a word;
that reading is what is stored, but zero is stored as zero in tenths of a Kelvin. Through a gauge in
whole degrees every word comes back, in both directions and whether or not a subtraction wraps. -/
theorem degrees_come_back (hg : a.gauge? = some g) (actionType : ActionType) (word : UInt32) :
    g.millikelvin (g.exact (signedOfWord word)) =
        TemperatureUnit.celsius.millikelvin (signedOfWord word) ∧
      (FitsWord (g.exact (signedOfWord word)) →
        ∃ stored, convertTemperature .normalized word actionType (some a) .set = .ok stored ∧
          (signedOfWord stored = g.exact (signedOfWord word) ∨
            g = .deciKelvin ∧ word = 0 ∧ stored = 0) ∧
          convertTemperature .normalized stored actionType (some a) .get = .ok word) ∧
      (g.Whole →
        (∃ stored, convertTemperature .normalized word actionType (some a) .set = .ok stored ∧
          convertTemperature .normalized stored actionType (some a) .get = .ok word) ∧
        ∃ shown, convertTemperature .normalized word actionType (some a) .get = .ok shown ∧
          convertTemperature .normalized shown actionType (some a) .set = .ok word) := by
  refine ⟨g.millikelvin_exact _, fun hfits => ?_,
    fun hwhole => whole_words hg hwhole actionType word⟩
  have hback (hstored : FitsWord (g.stored (signedOfWord word))) :
      convertTemperature .normalized (wordOfSigned (g.stored (signedOfWord word))) actionType
        (some a) .get = .ok word := by
    rw [convertTemperature_get hg, signedOfWord_of_fits hstored, g.shown_stored,
      wordOfSigned_signedOfWord]
  refine ⟨_, convertTemperature_set hg actionType word, ?_⟩
  rcases g.stored_cases (signedOfWord word) with hexact | ⟨hkelvin, hzero, hstored⟩
  · rw [← hexact] at hfits ⊢
    exact ⟨.inl (signedOfWord_of_fits hfits), hback hfits⟩
  · have hword : word = 0 := by
      rw [← wordOfSigned_signedOfWord word, hzero]
      rfl
    refine ⟨.inr ⟨hkelvin, hword, ?_⟩, hback ?_⟩
    · rw [hstored]
      rfl
    · rw [hstored]
      decide

/-! ## Get, then set -/

/-- A reading that is shown and written back is what `Gauge.WrittenBack` says, as long as it is half
a degree away from the bounds of a word. -/
theorem readings_written_back (hg : a.gauge? = some g) (actionType : ActionType) (word : UInt32)
    (hword : (signedOfWord word).natAbs ≤ 2 ^ 31 - 1001) :
    ∃ shown back, convertTemperature .normalized word actionType (some a) .get = .ok shown ∧
      convertTemperature .normalized shown actionType (some a) .set = .ok back ∧
      g.WrittenBack (signedOfWord word) (signedOfWord shown) (signedOfWord back) := by
  by_cases hwhole : g.Whole
  · obtain ⟨shown, hget, hset⟩ := (whole_words hg hwhole actionType word).2
    exact ⟨shown, word, hget, hset, Gauge.writtenBack_of_whole hwhole _ _⟩
  · have hshown := signedOfWord_of_fits (Gauge.fitsWord_shown hwhole hword)
    have hback := signedOfWord_of_fits (g.fitsWord_stored_shown hword)
    refine ⟨_, _, convertTemperature_get hg actionType word,
      convertTemperature_set hg actionType _, ?_⟩
    rw [hshown, hback]
    exact g.writtenBack _

end

namespace Sample

/-- An algorithm for one kind of temperature, whose greatest temperature is the least number. -/
def thermometer (kind : ConversionKind) : Algorithm := ⟨.msr, kind.code, 0x80000000, 0, 0, 0, 0⟩

def shownBy (kind : ConversionKind) (word : UInt32) : Except Fault UInt32 :=
  convertTemperature .normalized word .msr (some (thermometer kind)) .get

def storedBy (kind : ConversionKind) (word : UInt32) : Except Fault UInt32 :=
  convertTemperature .normalized word .msr (some (thermometer kind)) .set

/-- Forty degrees below zero in tenths of a Kelvin; and a distance below the least number that wraps
on its way to the hardware and again on its way back. -/
theorem cold_comes_back :
    (thermometer .temperatureDeciKelvin).gauge? = some .deciKelvin ∧
      FitsWord (Gauge.deciKelvin.exact (signedOfWord 0xFFFFFFD8)) ∧
      (∃ stored, storedBy .temperatureDeciKelvin 0xFFFFFFD8 = .ok stored ∧
        shownBy .temperatureDeciKelvin stored = .ok 0xFFFFFFD8) ∧
      (thermometer .temperatureBelowMax).gauge? = some (.belowMax (-2 ^ 31)) ∧
      ¬ FitsWord ((Gauge.belowMax (-2 ^ 31)).exact (signedOfWord 1)) ∧
      ∃ stored, storedBy .temperatureBelowMax 1 = .ok stored ∧
        shownBy .temperatureBelowMax stored = .ok 1 := by
  have hkelvin : (thermometer .temperatureDeciKelvin).gauge? = some .deciKelvin := by decide
  have hmax : (thermometer .temperatureBelowMax).gauge? = some (.belowMax (-2 ^ 31)) := by decide
  have hfits : FitsWord (Gauge.deciKelvin.exact (signedOfWord 0xFFFFFFD8)) := by decide
  obtain ⟨stored, hset, -, hget⟩ := (degrees_come_back hkelvin .msr 0xFFFFFFD8).2.1 hfits
  exact ⟨hkelvin, hfits, ⟨stored, hset, hget⟩, hmax, by decide,
    ((degrees_come_back hmax .msr 1).2.2 (.inr ⟨_, rfl⟩)).1⟩

/-- The lowest of the ten readings that are lost is stored as zero; half a degree below a whole one
is moved by half a degree. -/
theorem lowest_reading_lost :
    (thermometer .temperatureDeciKelvin).gauge? = some .deciKelvin ∧
      (signedOfWord 2727).natAbs ≤ 2 ^ 31 - 1001 ∧ Gauge.deciKelvin.Vanishing (signedOfWord 2727) ∧
      (∃ shown back, shownBy .temperatureDeciKelvin 2727 = .ok shown ∧
        storedBy .temperatureDeciKelvin shown = .ok back ∧ signedOfWord back = 0) ∧
      (thermometer .temperatureMilliCelsius).gauge? = some .milliCelsius ∧
      (signedOfWord 0xFFFFFA24).natAbs ≤ 2 ^ 31 - 1001 ∧
      ∃ shown back, shownBy .temperatureMilliCelsius 0xFFFFFA24 = .ok shown ∧
        storedBy .temperatureMilliCelsius shown = .ok back ∧
        (signedOfWord back - signedOfWord 0xFFFFFA24).natAbs ≤ 500 := by
  have hkelvin : (thermometer .temperatureDeciKelvin).gauge? = some .deciKelvin := by decide
  have hmilli : (thermometer .temperatureMilliCelsius).gauge? = some .milliCelsius := by decide
  have hlost : Gauge.deciKelvin.Vanishing (signedOfWord 2727) := by decide
  refine ⟨hkelvin, by decide, hlost, ?_, hmilli, by decide, ?_⟩
  · obtain ⟨shown, back, hget, hset, hback⟩ :=
      readings_written_back hkelvin .msr 2727 (by decide)
    exact ⟨shown, back, hget, hset, (hback.vanishing hlost).2⟩
  · obtain ⟨shown, back, hget, hset, hback⟩ :=
      readings_written_back hmilli .msr 0xFFFFFA24 (by decide)
    exact ⟨shown, back, hget, hset, hback.near (by decide)⟩

end Sample

end DeviceSupport
