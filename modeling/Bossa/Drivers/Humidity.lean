import Bossa.Drivers.Bme280

/-!
# The humidity as a percentage

The formula of the sensor gives the relative humidity in units of `2 ^ (-22)` percent, so
the clamp at `419430400` stands for 100 percent. The driver drops twelve bits of it and
divides by 100, and what it reports is 10.24 times the humidity. The formula is stated
first, on integers and with the residues modulo `2 ^ 32` where they make a difference.
-/

namespace Bossa.Drivers

open Telemetry

namespace Calibration

/-- The fine temperature of a raw temperature, 5120 to the degree. -/
def fineTemperature (c : Calibration) (rawTemperature : ℤ) : ℤ :=
  let linear := signed32 ((rawTemperature / 2 ^ 3 - 2 * c.digT1.toNat) * c.digT2.toInt)
  let square := signed32 ((rawTemperature / 2 ^ 4 - c.digT1.toNat) ^ 2)
  signed32 (linear / 2 ^ 11 + signed32 (square / 2 ^ 12 * c.digT3.toInt) / 2 ^ 14)

/-- The slope of the humidity at a distance from the reference temperature. -/
def humiditySlope (c : Calibration) (distance : ℤ) : ℤ :=
  let left := signed32 (distance * c.digH6.toInt) / 2 ^ 10
  let right := signed32 (distance * c.digH3.toNat) / 2 ^ 11 + 2 ^ 15
  let factor := signed32 (left * right) / 2 ^ 10 + 2 ^ 21
  signed32 (factor * c.digH2.toInt + 2 ^ 13) / 2 ^ 14

/-- The relative humidity of a measurement, in units of `2 ^ (-22)` percent. -/
def relativeHumidity (c : Calibration) (rawTemperature rawHumidity : ℤ) : ℤ :=
  let distance := c.fineTemperature rawTemperature - 76800
  let linear := signed32
    (2 ^ 14 * rawHumidity - 2 ^ 20 * c.digH4.toInt - c.digH5.toInt * distance + 2 ^ 14) / 2 ^ 15
  let humidity := signed32 (linear * c.humiditySlope distance)
  let square := signed32 ((humidity / 2 ^ 15) ^ 2)
  signed32 (humidity - signed32 (square / 2 ^ 7 * c.digH1.toNat) / 2 ^ 4)

end Calibration

/-- A sample in percent is a percentage. -/
def IsPercentage (sample : Sample) : Prop :=
  sample.unit = Bytes.ascii "percent" → ∃ q : ℚ, sample.value = .finite q ∧ 0 ≤ q ∧ q ≤ 100

/-- The samples in percent that a call of `read` returns are percentages. -/
def Bme280Driver.ReportsPercentages (bus : I2cBus) (now : ℤ) (d : Bme280Driver) : Prop :=
  ∃ samples, d.read wrap32 bus now = .ok samples ∧ ∀ sample ∈ samples, IsPercentage sample

/-- A call of `read` measures the raw values. -/
def Bme280Driver.Reads (bus : I2cBus) (d : Bme280Driver) (rawTemperature rawHumidity : ℤ) :
    Prop :=
  d.configured = true ∧ d.triggerMeasurement bus = true ∧
    d.readRaw bus = some (rawTemperature, rawHumidity)

theorem compensateTemperature_eq (c : Calibration) (rawTemperature : ℤ) :
    ∃ celsius, compensateTemperature wrap32 c rawTemperature =
      .ok (celsius, c.fineTemperature rawTemperature) := by
  simp only [compensateTemperature, wrap32_bind]
  simp only [signed32_sub_left, signed32_sub_right, signed32_mul_left, signed32_mul_right,
    signed32_add_left, signed32_shiftRight]
  simp only [Calibration.fineTemperature, shiftRight_eq_div, Int.shiftLeft_eq, pow_one,
    mul_comm, sq]
  exact ⟨_, rfl⟩

theorem humidityBeforeClamp_eq (c : Calibration) (rawTemperature rawHumidity : ℤ) :
    humidityBeforeClamp wrap32 c rawHumidity (c.fineTemperature rawTemperature) =
      .ok (c.relativeHumidity rawTemperature rawHumidity) := by
  simp only [humidityBeforeClamp, wrap32_bind]
  rw [wrap32_eq]
  simp only [signed32_sub_left, signed32_sub_right, signed32_mul_left, signed32_mul_right,
    signed32_add_left, signed32_shiftRight]
  simp only [Calibration.relativeHumidity, Calibration.humiditySlope, shiftRight_eq_div,
    Int.shiftLeft_eq, sq]
  norm_num [mul_comm]

theorem clampHumidity_bounds (v : ℤ) : 0 ≤ clampHumidity v ∧ clampHumidity v ≤ 419430400 := by
  unfold clampHumidity
  split
  · exact ⟨le_rfl, by decide⟩
  · split <;> omega

theorem clampHumidity_lt_iff {v bound : ℤ} (hpos : 0 < bound) (hbound : bound ≤ 419430400) :
    clampHumidity v < bound ↔ v < bound := by
  unfold clampHumidity
  split
  · omega
  · split <;> omega

theorem humidityPercent_eq {v : ℤ} (h : 0 ≤ v ∧ v ≤ 419430400) :
    humidityPercent wrap32 v = .ok (((v / 4096 : ℤ) : ℚ) / 100) := by
  have hshift : v >>> (12 : ℕ) = v / 4096 := by
    rw [Int.shiftRight_eq_div_pow]
    rfl
  have hfits : Fits32 (v / 4096) := by
    constructor <;> omega
  rw [humidityPercent, hshift, wrap32_of_fits hfits]
  rfl

theorem humidityPercent_clamp : humidityPercent wrap32 419430400 = .ok 1024 := by
  rw [humidityPercent_eq (by decide)]
  norm_num

/-- What is reported is between 0 and 1024, and a percentage when the humidity is below
9.77 percent. -/
theorem compensateHumidity_bounds {c : Calibration} {rawHumidity fine v : ℤ}
    (h : humidityBeforeClamp wrap32 c rawHumidity fine = .ok v) :
    ∃ q : ℚ, compensateHumidity wrap32 c rawHumidity fine = .ok q ∧ 0 ≤ q ∧ q ≤ 1024 ∧
      (q ≤ 100 ↔ v < 40964096) := by
  have hbounds := clampHumidity_bounds v
  have hclamp : clampHumidity v / 4096 ≤ 10000 ↔ v < 40964096 := by
    rw [← clampHumidity_lt_iff (by decide) (by decide)]
    omega
  have hlow : (0 : ℚ) ≤ ((clampHumidity v / 4096 : ℤ) : ℚ) := by
    exact_mod_cast Int.ediv_nonneg hbounds.1 (by decide)
  have hhigh : ((clampHumidity v / 4096 : ℤ) : ℚ) ≤ 102400 := by
    have hle : clampHumidity v / 4096 ≤ 102400 := by omega
    exact_mod_cast hle
  refine ⟨((clampHumidity v / 4096 : ℤ) : ℚ) / 100, ?_, ?_, ?_, ?_⟩
  · rw [compensateHumidity, h]
    exact humidityPercent_eq hbounds
  · linarith
  · linarith
  · rw [div_le_iff₀ (by norm_num), ← hclamp]
    norm_num
    exact_mod_cast Iff.rfl

namespace Bme280Driver

variable {d : Bme280Driver} {bus : I2cBus} {now : ℤ}

theorem read_of_not_reads (h : ∀ t r, ¬ d.Reads bus t r) : d.read wrap32 bus now = .ok [] := by
  unfold read
  split
  · rfl
  · next hconfigured =>
      split
      · rfl
      · next htrigger =>
          split
          · rfl
          · next t r hraw =>
              exact absurd ⟨by simpa using hconfigured, by simpa using htrigger, hraw⟩ (h t r)

theorem read_of_reads {t r fine : ℤ} {celsius percent : ℚ} (h : d.Reads bus t r)
    (htemperature : compensateTemperature wrap32 d.calibration t = .ok (celsius, fine))
    (hhumidity : compensateHumidity wrap32 d.calibration r fine = .ok percent) :
    ∃ temperature humidity, d.read wrap32 bus now = .ok [temperature, humidity] ∧
      temperature.unit = Bytes.ascii "celsius" ∧
      humidity.unit = Bytes.ascii "percent" ∧ humidity.value = .finite percent := by
  obtain ⟨hconfigured, htrigger, hraw⟩ := h
  refine ⟨⟨d.temperatureChannelId, .finite celsius, now, Bytes.ascii "celsius", .good, 0⟩,
    ⟨d.humidityChannelId, .finite percent, now, Bytes.ascii "percent", .good, 0⟩,
    ?_, rfl, rfl, rfl⟩
  simp only [read, hconfigured, htrigger, hraw, Bool.not_true, Bool.false_eq_true, if_false,
      htemperature, hhumidity, bind, Except.bind, pure, Except.pure]

/-- A call of `read` reports percentages exactly when the humidity it measures is less than
`40964096 / 2 ^ 22`, about 9.77 percent; and the clamp stands for 1024 and not for 100. -/
theorem reportsPercentages_iff (d : Bme280Driver) (bus : I2cBus) (now : ℤ) :
    (d.ReportsPercentages bus now ↔
        ∀ rawTemperature rawHumidity, d.Reads bus rawTemperature rawHumidity →
          d.calibration.relativeHumidity rawTemperature rawHumidity < 40964096) ∧
      humidityPercent wrap32 419430400 = .ok 1024 := by
  refine ⟨?_, humidityPercent_clamp⟩
  by_cases hreads : ∃ t r, d.Reads bus t r
  · obtain ⟨t, r, hreads⟩ := hreads
    obtain ⟨celsius, htemperature⟩ := compensateTemperature_eq d.calibration t
    obtain ⟨q, hhumidity, hlow, -, hpercent⟩ :=
      compensateHumidity_bounds (humidityBeforeClamp_eq d.calibration t r)
    obtain ⟨temperature, sample, hread, hcelsius, hunit, hvalue⟩ :
        ∃ temperature sample, d.read wrap32 bus now = .ok [temperature, sample] ∧ _ :=
      read_of_reads hreads htemperature hhumidity
    constructor
    · rintro ⟨samples, hsamples, hall⟩ t' r' hreads'
      rw [hread] at hsamples
      cases hsamples
      have hsame := hreads.2.2.symm.trans hreads'.2.2
      cases hsame
      obtain ⟨q', hq', -, hle⟩ := hall sample (by simp) hunit
      rw [hvalue] at hq'
      cases hq'
      exact hpercent.mp hle
    · intro hbelow
      refine ⟨_, hread, ?_⟩
      rintro x hx hx'
      rcases List.mem_cons.mp hx with rfl | hx
      · rw [hcelsius] at hx'
        exact absurd hx' (by decide)
      · rw [List.mem_singleton.mp hx]
        exact ⟨q, hvalue, hlow, hpercent.mpr (hbelow t r hreads)⟩
  · push Not at hreads
    refine iff_of_true ⟨[], read_of_not_reads hreads, fun _ hx => nomatch hx⟩ ?_
    exact fun t r hreads' => absurd hreads' (hreads t r)

def unitTestRegisters : UInt8 → UInt8
  | 0x88 => 0x30 | 0x89 => 0x6F | 0x8A => 0xF7 | 0x8B => 0x68 | 0x8C => 0x32 | 0xA1 => 0x4B
  | 0xD0 => 0x60
  | 0xE1 => 0x6B | 0xE2 => 0x01 | 0xE4 => 0x12 | 0xE5 => 0x03 | 0xE6 => 0x1E
  | 0xF8 => 0x80 | 0xFA => 0x82 | 0xFB => 0x3F | 0xFC => 0x80 | 0xFD => 0x7F | 0xFE => 0x45
  | _ => 0

/-- The driver that has read the calibration of the unit test. -/
def unitTestDriver : Bme280Driver where
  calibration :=
    { digT1 := 28464, digT2 := 26871, digT3 := 50, digH1 := 75, digH2 := 363, digH3 := 0
      digH4 := 291, digH5 := 480, digH6 := 0 }
  configured := true

/-- With the registers of the unit test the driver reports 699.51 percent. -/
theorem not_reportsPercentages :
    ¬ ∀ (d₀ d : Bme280Driver) (bus : I2cBus) (now : ℤ), d₀.connect bus = some d →
      d.ReportsPercentages bus now ∧ humidityPercent wrap32 419430400 = .ok 100 := by
  intro h
  obtain ⟨⟨samples, hread, hall⟩, -⟩ :=
    h {} unitTestDriver (.ofRegisters unitTestRegisters) 0 (by decide)
  have hreads : unitTestDriver.Reads (.ofRegisters unitTestRegisters) 533496 32581 :=
    ⟨rfl, rfl, by decide⟩
  obtain ⟨celsius, htemperature⟩ :=
    compensateTemperature_eq unitTestDriver.calibration 533496
  obtain ⟨q, hhumidity, -, -, hpercent⟩ :=
    compensateHumidity_bounds (humidityBeforeClamp_eq unitTestDriver.calibration 533496 32581)
  obtain ⟨_, sample, hread', -, hunit, hvalue⟩ := read_of_reads hreads htemperature hhumidity
  rw [hread'] at hread
  cases hread
  obtain ⟨q', hq', -, hle⟩ := hall sample (by simp) hunit
  rw [hvalue] at hq'
  cases hq'
  exact absurd (hpercent.mp hle) (by decide)

end Bme280Driver

end Bossa.Drivers
