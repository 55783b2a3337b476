import Bossa.Drivers.Decoding
import Bossa.Drivers.Humidity

/-!
# The range of the compensation formulas

The formulas compute in signed integers of 32 bits and check nothing. The results that can
leave the range are the three products of the temperature formula and nine results of the
humidity formula; if these, taken exactly, fit, then so does everything else.
-/

namespace Bossa.Drivers

namespace Calibration

variable (c : Calibration)

/-- The product with `T2`. -/
def linearTerm (rawTemperature : ℤ) : ℤ :=
  (rawTemperature / 2 ^ 3 - c.digT1.toNat * 2) * c.digT2.toInt

def squareTerm (rawTemperature : ℤ) : ℤ :=
  (rawTemperature / 2 ^ 4 - c.digT1.toNat) * (rawTemperature / 2 ^ 4 - c.digT1.toNat)

/-- The product with `T3`. -/
def quadraticTerm (rawTemperature : ℤ) : ℤ :=
  c.squareTerm rawTemperature / 2 ^ 12 * c.digT3.toInt

/-- The distance of the fine temperature from the reference temperature. -/
def distance (rawTemperature : ℤ) : ℤ :=
  c.linearTerm rawTemperature / 2 ^ 11 + c.quadraticTerm rawTemperature / 2 ^ 14 - 76800

/-- The product with `H5`. -/
def driftTerm (distance : ℤ) : ℤ := c.digH5.toInt * distance

/-- The raw humidity, less the constant and the drift. -/
def levelTerm (rawHumidity distance : ℤ) : ℤ :=
  rawHumidity * 2 ^ 14 - c.digH4.toInt * 2 ^ 20 - c.driftTerm distance

/-- The product of the factors with `H6` and `H3`. -/
def bendTerm (distance : ℤ) : ℤ :=
  distance * c.digH6.toInt / 2 ^ 10 * (distance * c.digH3.toNat / 2 ^ 11 + 32768)

/-- The product with `H2`. -/
def gainTerm (distance : ℤ) : ℤ := (c.bendTerm distance / 2 ^ 10 + 2097152) * c.digH2.toInt

/-- The humidity without the correction, 128 to the percent. -/
def linearHumidity (rawHumidity distance : ℤ) : ℤ :=
  (c.levelTerm rawHumidity distance + 16384) / 2 ^ 15 *
    ((c.gainTerm distance + 8192) / 2 ^ 14) / 2 ^ 15

def humiditySquare (rawHumidity distance : ℤ) : ℤ :=
  c.linearHumidity rawHumidity distance * c.linearHumidity rawHumidity distance

/-- The results of the temperature formula that can leave the range do not. -/
structure TemperatureFits (rawTemperature : ℤ) : Prop where
  linear : Fits32 (c.linearTerm rawTemperature)
  square : Fits32 (c.squareTerm rawTemperature)
  quadratic : Fits32 (c.quadraticTerm rawTemperature)

/-- The results of the humidity formula that can leave the range do not. -/
structure HumidityFits (rawHumidity distance : ℤ) : Prop where
  constant : c.digH4.toInt < 2 ^ 11
  drift : Fits32 (c.driftTerm distance)
  level : Fits32 (c.levelTerm rawHumidity distance)
  rounded : Fits32 (c.levelTerm rawHumidity distance + 16384)
  bend : Fits32 (c.bendTerm distance)
  gain : Fits32 (c.gainTerm distance)
  gainRounded : Fits32 (c.gainTerm distance + 8192)
  square : Fits32 (c.humiditySquare rawHumidity distance)
  correction : Fits32 (c.humiditySquare rawHumidity distance / 2 ^ 7 * c.digH1.toNat)

/-- The two formulas compute what they compute without an overflow. -/
def NeverOverflows (rawTemperature rawHumidity : ℤ) : Prop :=
  ∃ celsius fine percent,
    compensateTemperature checked32 c rawTemperature = .ok (celsius, fine) ∧
      compensateHumidity checked32 c rawHumidity fine = .ok percent

end Calibration

/-! ### Decoded values -/

theorem rawTemperature_bounds (high middle low : UInt8) :
    0 ≤ rawTemperature high middle low ∧ rawTemperature high middle low < 2 ^ 20 := by
  have hhigh := high.toNat_lt
  have hmiddle := middle.toNat_lt
  have hlow := low.toNat_lt
  refine ⟨Int.natCast_nonneg _, ?_⟩
  have hbits : (high.toUInt32 <<< (12 : UInt32) ||| middle.toUInt32 <<< (4 : UInt32) |||
      low.toUInt32 >>> (4 : UInt32)).toNat < 2 ^ 20 := by
    simp only [UInt32.toNat_or, UInt32.toNat_shiftLeft, UInt32.toNat_shiftRight,
      UInt8.toNat_toUInt32]
    refine Nat.or_lt_two_pow (Nat.or_lt_two_pow ?_ ?_) ?_
    · simp [Nat.shiftLeft_eq]
      omega
    · simp [Nat.shiftLeft_eq]
      omega
    · simp [Nat.shiftRight_eq_div_pow]
      omega
  exact Int.ofNat_lt.mpr hbits

theorem rawHumidity_bounds (high low : UInt8) :
    0 ≤ rawHumidity high low ∧ rawHumidity high low < 2 ^ 16 := by
  have hhigh := high.toNat_lt
  have hlow := low.toNat_lt
  refine ⟨Int.natCast_nonneg _, ?_⟩
  have hbits : (high.toUInt32 <<< (8 : UInt32) ||| low.toUInt32).toNat < 2 ^ 16 := by
    simp only [UInt32.toNat_or, UInt32.toNat_shiftLeft, UInt8.toNat_toUInt32]
    refine Nat.or_lt_two_pow ?_ (by omega)
    simp [Nat.shiftLeft_eq]
    omega
  exact Int.ofNat_lt.mpr hbits

theorem Bme280Driver.readRaw_bounds {d : Bme280Driver} {bus : I2cBus} {t r : ℤ}
    (h : d.readRaw bus = some (t, r)) : (0 ≤ t ∧ t < 2 ^ 20) ∧ 0 ≤ r ∧ r < 2 ^ 16 := by
  obtain ⟨buffer, -, hbuffer⟩ := Option.map_eq_some_iff.mp h
  cases hbuffer
  exact ⟨rawTemperature_bounds _ _ _, rawHumidity_bounds _ _⟩

theorem Bme280Driver.loadCalibration_digH4_nonneg {d : Bme280Driver} {bus : I2cBus}
    (h : (d.loadCalibration bus).1 = true) :
    0 ≤ (d.loadCalibration bus).2.calibration.digH4.toInt := by
  unfold loadCalibration at *
  split
  · next hblock => simp [hblock] at h
  · next hblock =>
      split
      · next hhumidity => simp [hblock, hhumidity] at h
      · exact (toInt_decodeH4 _ _).symm ▸ Int.natCast_nonneg _

theorem Bme280Driver.connect_digH4_nonneg {d₀ d : Bme280Driver} {bus : I2cBus}
    (h : d₀.connect bus = some d) : 0 ≤ d.calibration.digH4.toInt := by
  unfold connect at h
  split at h
  · cases h
  · split at h
    · cases h
    · cases hloaded : (d₀.loadCalibration bus).1 with
      | false => simp [hloaded] at h
      | true =>
          simp only [hloaded, Bool.not_true, Bool.false_eq_true, if_false,
            Option.some.injEq] at h
          rw [← h]
          exact loadCalibration_digH4_nonneg hloaded

/-! ### The two formulas -/

section Fits

variable {c : Calibration} {t r distance : ℤ}

theorem fine_bounds {linear quadratic : ℤ} (hlinear : Fits32 linear)
    (hquadratic : Fits32 quadratic) :
    -1179648 ≤ linear / 2 ^ 11 + quadratic / 2 ^ 14 ∧
      linear / 2 ^ 11 + quadratic / 2 ^ 14 < 1179648 := by
  have hlow := hlinear.1
  have hhigh := hlinear.2
  have hlow' := hquadratic.1
  have hhigh' := hquadratic.2
  omega

/-- The temperature formula computes without an overflow exactly when its three products
fit. -/
theorem compensateTemperature_checked_iff (ht : 0 ≤ t ∧ t < 2 ^ 20) {fine : ℤ} :
    (∃ celsius, compensateTemperature checked32 c t = .ok (celsius, fine)) ↔
      c.TemperatureFits t ∧ fine = c.distance t + 76800 := by
  have hfine : c.distance t + 76800 =
      c.linearTerm t / 2 ^ 11 + c.quadraticTerm t / 2 ^ 14 := Int.sub_add_cancel _ _
  have ht1 := c.digT1.toNat_lt
  simp only [compensateTemperature, checked32_bind_eq_ok_iff, shiftRight_eq_div,
    Int.shiftLeft_eq, pow_one, hfine]
  constructor
  · rintro ⟨celsius, -, -, -, hlinear, -, -, -, hsquare, -, hquadratic, -, -, -, -, -, hresult⟩
    cases hresult
    exact ⟨⟨hlinear, hsquare, hquadratic⟩, rfl⟩
  · rintro ⟨⟨hlinear, hsquare, hquadratic⟩, rfl⟩
    have hbounds := fine_bounds hlinear hquadratic
    unfold Calibration.quadraticTerm Calibration.squareTerm Calibration.linearTerm at *
    refine ⟨_, ?_, ?_, ?_, hlinear, hlinear.ediv 11, ?_, ?_, hsquare, hsquare.ediv 12,
      hquadratic, hquadratic.ediv 14, ?_, ?_, ?_, ?_, rfl⟩
    all_goals constructor <;> omega

theorem abs_mul_le {a b bound bound' : ℤ} (ha : |a| ≤ bound) (hb : |b| ≤ bound') :
    |a * b| ≤ bound * bound' := by
  rw [abs_mul]
  exact mul_le_mul ha hb (abs_nonneg b) ((abs_nonneg a).trans ha)

theorem abs_le_of_fits_mul_self {a : ℤ} (h : Fits32 (a * a)) : -46340 ≤ a ∧ a ≤ 46340 := by
  have hsquare : a * a < 2 ^ 31 := h.2
  constructor <;> nlinarith

theorem corrected_fits {product correction : ℤ}
    (hsquare : Fits32 (product / 2 ^ 15 * (product / 2 ^ 15))) (hcorrection : Fits32 correction)
    (hpos : 0 ≤ correction) : Fits32 product ∧ Fits32 (product - correction / 2 ^ 4) := by
  have hproduct := abs_le_of_fits_mul_self hsquare
  have hhigh := hcorrection.2
  refine ⟨?_, ?_⟩ <;> constructor <;> omega

/-- The humidity formula computes without an overflow exactly when its nine results fit. -/
theorem humidityBeforeClamp_checked_iff (hh4 : 0 ≤ c.digH4.toInt) (hr : 0 ≤ r ∧ r < 2 ^ 16)
    (hdistance : |distance| ≤ 1256448) :
    (∃ v, humidityBeforeClamp checked32 c r (distance + 76800) = .ok v) ↔
      c.HumidityFits r distance := by
  simp only [humidityBeforeClamp, checked32_bind_eq_ok_iff, checked32_eq_ok_iff,
    shiftRight_eq_div, Int.shiftLeft_eq, Int.add_sub_cancel]
  constructor
  · rintro ⟨v, -, -, hconstant, -, hdrift, hlevel, hrounded, -, -, -, -, -, -, hbend, -, -,
      hgain, hgainRounded, -, -, -, hsquare, -, hcorrection, -, -⟩
    refine ⟨?_, hdrift, hlevel, hrounded, hbend, hgain, hgainRounded, hsquare, hcorrection⟩
    have hhigh := hconstant.2
    omega
  · rintro ⟨hconstant, hdrift, hlevel, hrounded, hbend, hgain, hgainRounded, hsquare,
      hcorrection⟩
    have hh6 : |distance * c.digH6.toInt| ≤ 1256448 * 128 :=
      abs_mul_le hdistance (abs_le.mpr ⟨c.digH6.le_toInt, c.digH6.toInt_lt.le⟩)
    have hh3 : |distance * c.digH3.toNat| ≤ 1256448 * 255 := by
      have hbyte := c.digH3.toNat_lt
      exact abs_mul_le hdistance (abs_le.mpr ⟨by omega, by omega⟩)
    have hh6Fits := fits32_of_abs_le hh6 (by decide)
    have hh3Fits := fits32_of_abs_le hh3 (by decide)
    have hpos : 0 ≤ c.humiditySquare r distance / 2 ^ 7 * c.digH1.toNat :=
      mul_nonneg (Int.ediv_nonneg (mul_self_nonneg _) (by decide)) (Int.natCast_nonneg _)
    obtain ⟨hproduct, hresult⟩ := corrected_fits hsquare hcorrection hpos
    have hconstants : Fits32 (r * 2 ^ 14) ∧ Fits32 (c.digH4.toInt * 2 ^ 20) ∧
        Fits32 (r * 2 ^ 14 - c.digH4.toInt * 2 ^ 20) := by
      refine ⟨?_, ?_, ?_⟩ <;> constructor <;> omega
    have hright : Fits32 (distance * c.digH3.toNat / 2 ^ 11 + 32768) := by
      have habs := abs_le.mp hh3
      constructor <;> omega
    have hfactor : Fits32 (c.bendTerm distance / 2 ^ 10 + 2097152) := by
      have hlow := hbend.1
      have hhigh := hbend.2
      constructor <;> omega
    exact ⟨_, fits32_of_abs_le hdistance (by decide), hconstants.1, hconstants.2.1,
      hconstants.2.2, hdrift, hlevel, hrounded, hrounded.ediv 15, hh6Fits, hh6Fits.ediv 10,
      hh3Fits, hh3Fits.ediv 11, hright, hbend, hbend.ediv 10, hfactor, hgain, hgainRounded,
      hgainRounded.ediv 14, hproduct, hproduct.ediv 15, hsquare, hsquare.ediv 7, hcorrection,
      hcorrection.ediv 4, hresult, rfl⟩

theorem compensateHumidity_checked_iff {fine : ℤ} :
    (∃ percent, compensateHumidity checked32 c r fine = .ok percent) ↔
      ∃ v, humidityBeforeClamp checked32 c r fine = .ok v := by
  constructor
  · rintro ⟨percent, h⟩
    obtain ⟨v, hv, -⟩ := Abort.bind_eq_ok_iff.mp h
    exact ⟨v, hv⟩
  · rintro ⟨v, hv⟩
    have hclamped := clampHumidity_bounds v
    have hfits : Fits32 (clampHumidity v / 2 ^ 12) := by
      constructor <;> omega
    refine ⟨((clampHumidity v / 2 ^ 12 : ℤ) : ℚ) / 100, ?_⟩
    rw [compensateHumidity, hv]
    change humidityPercent checked32 (clampHumidity v) = _
    rw [humidityPercent, checked32_bind_eq_ok_iff, shiftRight_eq_div]
    exact ⟨hfits, rfl⟩

/-- With decoded values, the formulas compute without an overflow exactly when the twelve
results that can leave the range do not. -/
theorem Calibration.neverOverflows_iff_fits (hh4 : 0 ≤ c.digH4.toInt)
    (ht : 0 ≤ t ∧ t < 2 ^ 20) (hr : 0 ≤ r ∧ r < 2 ^ 16) :
    c.NeverOverflows t r ↔ c.TemperatureFits t ∧ c.HumidityFits r (c.distance t) := by
  have hdistance (h : c.TemperatureFits t) : |c.distance t| ≤ 1256448 := by
    have hbounds := fine_bounds h.linear h.quadratic
    rw [Calibration.distance, abs_le]
    omega
  constructor
  · rintro ⟨celsius, fine, percent, htemperature, hhumidity⟩
    obtain ⟨hfits, rfl⟩ := (compensateTemperature_checked_iff ht).mp ⟨celsius, htemperature⟩
    have hbefore := compensateHumidity_checked_iff.mp ⟨percent, hhumidity⟩
    exact ⟨hfits, (humidityBeforeClamp_checked_iff hh4 hr (hdistance hfits)).mp hbefore⟩
  · rintro ⟨hfits, hhumidityFits⟩
    obtain ⟨celsius, htemperature⟩ :=
      (compensateTemperature_checked_iff ht).mpr ⟨hfits, rfl⟩
    obtain ⟨percent, hhumidity⟩ := compensateHumidity_checked_iff.mpr
      ((humidityBeforeClamp_checked_iff hh4 hr (hdistance hfits)).mpr hhumidityFits)
    exact ⟨celsius, _, percent, htemperature, hhumidity⟩

/-! ### Usual coefficients -/

/-- Coefficients and readings of a usual size, around the values of real sensors. -/
structure Calibration.Usual (c : Calibration) (t r : ℤ) : Prop where
  temperature : -4096 ≤ t / 2 ^ 4 - c.digT1.toNat ∧ t / 2 ^ 4 - c.digT1.toNat ≤ 16384
  digT2 : 0 ≤ c.digT2.toInt ∧ c.digT2.toInt ≤ 28672
  digT3 : |c.digT3.toInt| ≤ 1024
  humidity : 0 ≤ r ∧ r ≤ 40000
  digH1 : c.digH1.toNat ≤ 127
  digH2 : |c.digH2.toInt| ≤ 400
  digH3 : c.digH3.toNat ≤ 4
  digH4 : 0 ≤ c.digH4.toInt ∧ c.digH4.toInt ≤ 511
  digH5 : |c.digH5.toInt| ≤ 255
  digH6 : |c.digH6.toInt| ≤ 32

namespace Calibration.Usual

/-- The temperature formula stays in the range, and the distance is small. -/
theorem temperatureFits (h : c.Usual t r) :
    c.TemperatureFits t ∧ |c.distance t| ≤ 386064 := by
  obtain ⟨hlow, hhigh⟩ := h.temperature
  obtain ⟨ht2, ht2'⟩ := h.digT2
  have hlinear : -234881024 ≤ c.linearTerm t ∧ c.linearTerm t ≤ 939552768 := by
    have hx : -8192 ≤ t / 2 ^ 3 - c.digT1.toNat * 2 ∧
        t / 2 ^ 3 - c.digT1.toNat * 2 ≤ 32769 := by omega
    unfold linearTerm
    constructor <;> nlinarith
  have hsquare : |c.squareTerm t| ≤ 16384 * 16384 :=
    abs_mul_le (abs_le.mpr ⟨by omega, hhigh⟩) (abs_le.mpr ⟨by omega, hhigh⟩)
  have hscaled : |c.squareTerm t / 2 ^ 12| ≤ 65536 := by
    have habs := abs_le.mp hsquare
    exact abs_le.mpr ⟨by omega, by omega⟩
  have hquadratic : |c.quadraticTerm t| ≤ 65536 * 1024 := abs_mul_le hscaled h.digT3
  refine ⟨⟨?_, fits32_of_abs_le hsquare (by decide), fits32_of_abs_le hquadratic (by decide)⟩,
    ?_⟩
  · constructor <;> omega
  · have habs := abs_le.mp hquadratic
    rw [distance, abs_le]
    omega

theorem humidityFits (h : c.Usual t r) (hdistance : |distance| ≤ 386064) :
    c.HumidityFits r distance := by
  obtain ⟨hr, hr'⟩ := h.humidity
  obtain ⟨hh4, hh4'⟩ := h.digH4
  have hdrift : |c.driftTerm distance| ≤ 255 * 386064 := abs_mul_le h.digH5 hdistance
  have hlevel : -634268656 ≤ c.levelTerm r distance ∧ c.levelTerm r distance ≤ 753806320 := by
    have habs := abs_le.mp hdrift
    unfold levelTerm
    omega
  have hh6 : |distance * c.digH6.toInt / 2 ^ 10| ≤ 12065 := by
    have habs := abs_le.mp (abs_mul_le hdistance h.digH6)
    exact abs_le.mpr ⟨by omega, by omega⟩
  have hh3 : |distance * c.digH3.toNat / 2 ^ 11 + 32768| ≤ 33522 := by
    have hsmall := h.digH3
    have hfactor : |(c.digH3.toNat : ℤ)| ≤ 4 := abs_le.mpr ⟨by omega, by omega⟩
    have habs := abs_le.mp (abs_mul_le hdistance hfactor)
    exact abs_le.mpr ⟨by omega, by omega⟩
  have hbend : |c.bendTerm distance| ≤ 12065 * 33522 := abs_mul_le hh6 hh3
  have hfactor : |c.bendTerm distance / 2 ^ 10 + 2097152| ≤ 2492116 := by
    have habs := abs_le.mp hbend
    exact abs_le.mpr ⟨by omega, by omega⟩
  have hgain : |c.gainTerm distance| ≤ 2492116 * 400 := abs_mul_le hfactor h.digH2
  have hslope : |(c.gainTerm distance + 8192) / 2 ^ 14| ≤ 60844 := by
    have habs := abs_le.mp hgain
    exact abs_le.mpr ⟨by omega, by omega⟩
  have hvar2 : |(c.levelTerm r distance + 16384) / 2 ^ 15| ≤ 23005 :=
    abs_le.mpr ⟨by omega, by omega⟩
  have hlinear : |c.linearHumidity r distance| ≤ 42717 := by
    have habs := abs_le.mp (abs_mul_le hvar2 hslope)
    exact abs_le.mpr ⟨by unfold linearHumidity; omega, by unfold linearHumidity; omega⟩
  have hsquare : |c.humiditySquare r distance| ≤ 42717 * 42717 := abs_mul_le hlinear hlinear
  have hcorrection : |c.humiditySquare r distance / 2 ^ 7 * c.digH1.toNat| ≤
      14255798 * 127 := by
    have hsmall := h.digH1
    have habs := abs_le.mp hsquare
    exact abs_mul_le (abs_le.mpr ⟨by omega, by omega⟩) (abs_le.mpr ⟨by omega, by omega⟩)
  have hgainAbs := abs_le.mp hgain
  exact
    { constant := by omega
      drift := fits32_of_abs_le hdrift (by decide)
      level := ⟨by omega, by omega⟩
      rounded := ⟨by omega, by omega⟩
      bend := fits32_of_abs_le hbend (by decide)
      gain := fits32_of_abs_le hgain (by decide)
      gainRounded := ⟨by omega, by omega⟩
      square := fits32_of_abs_le hsquare (by decide)
      correction := fits32_of_abs_le hcorrection (by decide) }

theorem neverOverflows (h : c.Usual t r) (ht : 0 ≤ t ∧ t < 2 ^ 20) : c.NeverOverflows t r := by
  obtain ⟨hfits, hdistance⟩ := h.temperatureFits
  have hr : 0 ≤ r ∧ r < 2 ^ 16 := ⟨h.humidity.1, lt_of_le_of_lt h.humidity.2 (by decide)⟩
  exact (neverOverflows_iff_fits h.digH4.1 ht hr).mpr ⟨hfits, h.humidityFits hdistance⟩

end Calibration.Usual

end Fits

namespace Bme280Driver

variable {d₀ d : Bme280Driver} {bus bus' : I2cBus} {t r : ℤ}

/-- With a calibration that was loaded and a measurement that was read, the formulas compute
without an overflow exactly when the twelve results that can leave the range do not. -/
theorem neverOverflows_iff (hconnect : d₀.connect bus = some d)
    (hraw : d.readRaw bus' = some (t, r)) :
    d.calibration.NeverOverflows t r ↔
      d.calibration.TemperatureFits t ∧
        d.calibration.HumidityFits r (d.calibration.distance t) := by
  obtain ⟨ht, hr⟩ := readRaw_bounds hraw
  exact Calibration.neverOverflows_iff_fits (connect_digH4_nonneg hconnect) ht hr

/-- The unit test: no result leaves the range. -/
theorem neverOverflows_iff_unitTest :
    unitTestDriver.calibration.NeverOverflows 533496 32581 := by
  refine (neverOverflows_iff
    (show ({} : Bme280Driver).connect (.ofRegisters unitTestRegisters) = some unitTestDriver by
      decide)
    (show unitTestDriver.readRaw (.ofRegisters unitTestRegisters) = some (533496, 32581) by
      decide)).mpr ⟨?_, ?_⟩
  · constructor <;> decide
  · constructor <;> decide

/-- The registers of a sensor with `T2 = 32767` and `T1 = 0`, and the largest temperature. -/
def largeRegisters : UInt8 → UInt8
  | 0x8A => 0xFF | 0x8B => 0x7F
  | 0xD0 => 0x60
  | 0xFA => 0xFF | 0xFB => 0xFF | 0xFC => 0xFF
  | _ => 0

/-- The product of the temperature formula overflows there. -/
theorem not_neverOverflows :
    ¬ ∀ (d₀ d : Bme280Driver) (bus bus' : I2cBus) (t r : ℤ), d₀.connect bus = some d →
      d.readRaw bus' = some (t, r) → d.calibration.NeverOverflows t r := by
  intro h
  obtain ⟨celsius, fine, -, htemperature, -⟩ :=
    h {} { calibration := { digT2 := 32767 }, configured := true } (.ofRegisters largeRegisters)
      (.ofRegisters largeRegisters) 1048575 0 (by decide) (by decide)
  have hfits := (compensateTemperature_checked_iff (by decide)).mp ⟨celsius, htemperature⟩
  exact absurd hfits.1.linear (by decide)

end Bme280Driver

end Bossa.Drivers
