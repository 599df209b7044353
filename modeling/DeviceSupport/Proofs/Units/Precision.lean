import DeviceSupport.Proofs.Units.Scale

/-! What a conversion between temperature units loses.

Converting to an equal or finer unit never meets a tie, because the zeros of the two scales lie
apart by no odd multiple of half a step; so the old value is the one nearest to the new one, and
converting back returns it unless the new value is zero (`finer_keeps`). Converting to a coarser
unit and back moves a value by at most half a step of the coarser unit (`coarser_near`). -/
namespace DeviceSupport.TemperatureUnit
set_option autoImplicit false

theorem step_cases (unit : TemperatureUnit) :
    unit.step = 1 ∨ unit.step = 10 ∨ unit.step = 100 ∨ unit.step = 1000 := by
  cases unit <;> decide

/-- The steps divide each other in the order of their sizes. -/
theorem step_dvd_step {fine coarse : TemperatureUnit} :
    fine.step ≤ coarse.step → fine.step ∣ coarse.step := by
  rcases fine.step_cases with hfine | hfine | hfine | hfine <;>
    rcases coarse.step_cases with hcoarse | hcoarse | hcoarse | hcoarse <;>
      rw [hfine, hcoarse] <;> decide

/-- Between a unit and a coarser one, temperatures differ by whole fine steps and by what lies
between the zeros of the scales. -/
theorem exists_steps_between {fine coarse : TemperatureUnit} (h : fine.step ≤ coarse.step)
    (v r : Int) : ∃ k, coarse.millikelvin v - fine.millikelvin r =
      k * fine.step + (coarse.origin - fine.origin) := by
  obtain ⟨n, hn⟩ := step_dvd_step h
  refine ⟨v * n - r, ?_⟩
  rw [millikelvin, millikelvin, hn, Int.sub_mul, Int.mul_assoc, Int.mul_comm n]
  omega

theorem no_tie {fine coarse : TemperatureUnit} (h : fine.step ≤ coarse.step) (v r : Int) :
    2 * (fine.millikelvin r - coarse.millikelvin v) ≠ fine.step := by
  obtain ⟨k, hk⟩ := exists_steps_between h v r
  -- The zeros lie no steps, whole steps or, among whole degrees, a fifth of a step apart.
  rcases fine.step_cases with hstep | hstep | hstep | hstep <;>
    rcases fine.origin_cases with hfine | hfine <;>
      rcases coarse.origin_cases with hcoarse | hcoarse <;>
        rw [hstep, hfine, hcoarse] at hk <;> omega

/-! ## To an equal or finer unit -/

theorem nearest_back {input output : TemperatureUnit} (h : output.step ≤ input.step) {v : Int}
    (hv : v ≠ 0) :
    Nearest input.step (exact output input (convert input output v)) v := by
  obtain ⟨hlow, hhigh⟩ := nearest_exact_iff.mp (nearest_convert input output hv)
  -- A tie is the one distance that only the way to the finer unit allows.
  have htie := no_tie h v (convert input output v)
  refine nearest_exact_iff.mpr ⟨?_, ?_⟩ <;> omega

theorem convert_back {input output : TemperatureUnit} (h : output.step ≤ input.step) (v : Int) :
    convert output input (convert input output v) = v ↔ convert input output v ≠ 0 ∨ v = 0 := by
  by_cases hv : v = 0
  · simp [hv, convert_zero]
  · by_cases hr : convert input output v = 0
    · rw [hr, convert_zero]
      simp [hv, eq_comm]
    · simpa [hv, hr] using (convert_eq_iff output input hr v).mpr (nearest_back h hv)

/-- Steps of at most a tenth of a degree reach every temperature of a coarser unit. -/
theorem millikelvin_convert {input output : TemperatureUnit} (h : output.step ≤ input.step)
    (htenth : output.step ≤ 100) {v : Int} (hv : v ≠ 0) :
    output.millikelvin (convert input output v) = input.millikelvin v := by
  obtain ⟨hlow, hhigh⟩ := nearest_exact_iff.mp (nearest_convert input output hv)
  obtain ⟨k, hk⟩ := exists_steps_between h v (convert input output v)
  -- The temperatures differ by whole steps and by at most half a step.
  rcases output.step_cases with hstep | hstep | hstep | hstep <;>
    rcases output.origin_cases with houtput | houtput <;>
      rcases input.origin_cases with hinput | hinput <;>
        rw [hstep] at hlow hhigh htenth <;> rw [hstep, houtput, hinput] at hk <;> omega

theorem convertInt64?_back (input output : TemperatureUnit) {v : Int} (h : v.natAbs ≤ 2 ^ 53) :
    convertInt64? output input (convert input output v) =
      some (convert output input (convert input output v)) := by
  refine convertInt64?_of_scaled output input ?_
  by_cases hv : v = 0
  · rw [hv, convert_zero, Int.zero_mul]
    decide
  · -- Scaled up again, the new value is the old temperature but for half a step.
    obtain ⟨hlow, hhigh⟩ := nearest_exact_iff.mp (nearest_convert input output hv)
    have hscaled := input.natAbs_mul_step_le v
    have hstep := output.step_le
    have hinput := input.origin_cases
    have houtput := output.origin_cases
    rw [millikelvin, millikelvin] at hlow hhigh
    omega

/-- A conversion to an equal or finer unit is undone by the conversion back, unless it turned
something else into zero; and 64 bits hold every number on both ways. -/
theorem finer_keeps {input output : TemperatureUnit} (h : output.step ≤ input.step) (v : Int) :
    (convert output input (convert input output v) = v ↔ convert input output v ≠ 0 ∨ v = 0) ∧
      (v.natAbs ≤ 2 ^ 53 →
        convertInt64? input output v = some (convert input output v) ∧
          convertInt64? output input (convert input output v) =
            some (convert output input (convert input output v))) :=
  ⟨convert_back h v, fun hv =>
    ⟨convertInt64?_of_natAbs_le input output hv, convertInt64?_back input output hv⟩⟩

/-- Degrees of both scales are equally coarse, and a value comes back from either; the one value in
tenths of a Kelvin that is zero Celsius does not. -/
theorem kept_unless_zero :
    celsius.step ≤ kelvin.step ∧ celsius.convert kelvin (kelvin.convert celsius 300) = 300 ∧
      milliCelsius.step ≤ deciKelvin.step ∧
      milliCelsius.convert deciKelvin (deciKelvin.convert milliCelsius 2732) ≠ 2732 :=
  ⟨by decide, (finer_keeps (by decide) 300).1.mpr (by decide), by decide,
    fun hback => absurd ((finer_keeps (by decide) 2732).1.mp hback) (by decide)⟩

/-! ## To a coarser unit -/

/-- A value that went through a coarser unit is back within half a step of that unit. Zero stands
for the same temperature in both units only when they share their scale. -/
theorem coarser_near (fine coarse : TemperatureUnit) (h : fine.step ≤ coarse.step)
    (htenth : fine.step ≤ 100) {v : Int}
    (hzero : convert fine coarse v = 0 → v = 0 ∨ fine.origin = coarse.origin) :
    2 * (fine.millikelvin (convert coarse fine (convert fine coarse v)) -
      fine.millikelvin v).natAbs ≤ coarse.step := by
  have hpos := coarse.step_pos
  by_cases hv : v = 0
  · rw [hv, convert_zero, convert_zero]
    omega
  · obtain ⟨hlow, hhigh⟩ := nearest_exact_iff.mp (nearest_convert fine coarse hv)
    have hback : fine.millikelvin (convert coarse fine (convert fine coarse v)) =
        coarse.millikelvin (convert fine coarse v) := by
      by_cases hr : convert fine coarse v = 0
      · rw [hr, convert_zero, millikelvin, millikelvin, Int.zero_mul, Int.zero_mul,
          (hzero hr).resolve_left hv]
      · exact millikelvin_convert h htenth hr
    rw [hback]
    omega

end DeviceSupport.TemperatureUnit
