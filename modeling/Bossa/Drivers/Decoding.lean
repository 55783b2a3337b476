import Bossa.Drivers.Bme280
import Mathlib.Tactic.IntervalCases

/-!
# The calibration registers

How the coefficients of a sensor lie in its registers, and what `load_calibration` makes of
them. `H4` and `H5` are signed integers of twelve bits, of which eight are the byte of a
register; the driver widens this byte without its sign.
-/

namespace Bossa.Drivers

/-- The coefficients of a sensor. -/
structure Coefficients where
  t1 : UInt16
  t2 : Int16
  t3 : Int16
  h1 : UInt8
  h2 : Int16
  h3 : UInt8
  h4 : BitVec 12
  h5 : BitVec 12
  h6 : Int8
  deriving DecidableEq, Repr

/-- The bytes of a word lie in a register and the next one, the low byte first. -/
def LittleEndianAt (registers : UInt8 → UInt8) (address : UInt8) (word : BitVec 16) : Prop :=
  (registers address).toBitVec = word.extractLsb' 0 8 ∧
    (registers (address + 1)).toBitVec = word.extractLsb' 8 8

namespace Coefficients

/-- The coefficients are laid out in the registers. -/
structure LaidOut (registers : UInt8 → UInt8) (k : Coefficients) : Prop where
  t1 : LittleEndianAt registers 0x88 k.t1.toBitVec
  t2 : LittleEndianAt registers 0x8A k.t2.toBitVec
  t3 : LittleEndianAt registers 0x8C k.t3.toBitVec
  h1 : registers 0xA1 = k.h1
  h2 : LittleEndianAt registers 0xE1 k.h2.toBitVec
  h3 : registers 0xE3 = k.h3
  h4High : (registers 0xE4).toBitVec = k.h4.extractLsb' 4 8
  h4Low : (registers 0xE5).toBitVec.extractLsb' 0 4 = k.h4.extractLsb' 0 4
  h5Low : (registers 0xE5).toBitVec.extractLsb' 4 4 = k.h5.extractLsb' 0 4
  h5High : (registers 0xE6).toBitVec = k.h5.extractLsb' 4 8
  h6 : registers 0xE7 = k.h6.toUInt8

/-- Registers with the coefficients, and zeros around them. -/
def registers (k : Coefficients) : UInt8 → UInt8
  | 0x88 => .ofBitVec (k.t1.toBitVec.extractLsb' 0 8)
  | 0x89 => .ofBitVec (k.t1.toBitVec.extractLsb' 8 8)
  | 0x8A => .ofBitVec (k.t2.toBitVec.extractLsb' 0 8)
  | 0x8B => .ofBitVec (k.t2.toBitVec.extractLsb' 8 8)
  | 0x8C => .ofBitVec (k.t3.toBitVec.extractLsb' 0 8)
  | 0x8D => .ofBitVec (k.t3.toBitVec.extractLsb' 8 8)
  | 0xA1 => k.h1
  | 0xE1 => .ofBitVec (k.h2.toBitVec.extractLsb' 0 8)
  | 0xE2 => .ofBitVec (k.h2.toBitVec.extractLsb' 8 8)
  | 0xE3 => k.h3
  | 0xE4 => .ofBitVec (k.h4.extractLsb' 4 8)
  | 0xE5 => .ofBitVec (k.h5.extractLsb' 0 4 ++ k.h4.extractLsb' 0 4)
  | 0xE6 => .ofBitVec (k.h5.extractLsb' 4 8)
  | 0xE7 => k.h6.toUInt8
  | _ => 0

theorem laidOut_registers (k : Coefficients) : k.LaidOut k.registers where
  t1 := ⟨rfl, rfl⟩
  t2 := ⟨rfl, rfl⟩
  t3 := ⟨rfl, rfl⟩
  h1 := rfl
  h2 := ⟨rfl, rfl⟩
  h3 := rfl
  h4High := rfl
  h4Low := BitVec.extractLsb'_append_eq_right
  h5Low := BitVec.extractLsb'_append_eq_left
  h5High := rfl
  h6 := rfl

def calibration (k : Coefficients) : Calibration where
  digT1 := k.t1
  digT2 := k.t2
  digT3 := k.t3
  digH1 := k.h1
  digH2 := k.h2
  digH3 := k.h3
  digH4 := .ofInt k.h4.toInt
  digH5 := .ofInt k.h5.toInt
  digH6 := k.h6

end Coefficients

/-! ### Words of two registers -/

theorem append_extractLsb' (high low : ℕ) (x : BitVec (high + low)) :
    x.extractLsb' low high ++ x.extractLsb' 0 low = x := by
  rw [BitVec.extractLsb'_append_extractLsb'_eq_extractLsb' (Nat.zero_add low).symm]
  exact BitVec.extractLsb'_eq_self

theorem toBitVec_readUint16Le (low high : UInt8) :
    (readUint16Le low high).toBitVec = high.toBitVec ++ low.toBitVec := by
  refine BitVec.eq_of_getLsbD_eq fun i hi => ?_
  simp only [readUint16Le, UInt16.toBitVec_or, UInt16.toBitVec_shiftLeft, BitVec.getLsbD_append]
  interval_cases i <;> simp

theorem LittleEndianAt.toBitVec_readUint16Le {registers : UInt8 → UInt8} {address : UInt8}
    {word : BitVec 16} (h : LittleEndianAt registers address word) :
    (readUint16Le (registers address) (registers (address + 1))).toBitVec = word := by
  rw [Drivers.toBitVec_readUint16Le, h.1, h.2]
  exact append_extractLsb' 8 8 word

theorem LittleEndianAt.readUint16Le_eq {registers : UInt8 → UInt8} {address : UInt8}
    {word : UInt16} (h : LittleEndianAt registers address word.toBitVec) :
    readUint16Le (registers address) (registers (address + 1)) = word :=
  UInt16.toBitVec_inj.mp h.toBitVec_readUint16Le

theorem LittleEndianAt.readInt16Le_eq {registers : UInt8 → UInt8} {address : UInt8}
    {word : Int16} (h : LittleEndianAt registers address word.toBitVec) :
    readInt16Le (registers address) (registers (address + 1)) = word :=
  Int16.toBitVec_inj.mp h.toBitVec_readUint16Le

/-! ### Coefficients of twelve bits -/

theorem toInt_setWidth_twelve (x : BitVec 12) : (x.setWidth 16).toInt = x.toNat := by
  have hx := x.isLt
  rw [BitVec.toInt_setWidth]
  exact Int.bmod_eq_of_le (by omega) (by omega)

theorem toInt_shift_or (high : UInt8) {nibble : UInt8} {low : BitVec 4}
    (hnibble : nibble.toBitVec = low.setWidth 8) :
    (promote high <<< 4 ||| promote nibble).toInt16.toInt =
      (high.toBitVec ++ low : BitVec 12).toNat := by
  have hbits : (promote high <<< 4 ||| promote nibble).toInt16.toBitVec =
      (high.toBitVec ++ low : BitVec 12).setWidth 16 := by
    refine BitVec.eq_of_getLsbD_eq fun i hi => ?_
    simp only [promote, BitVec.getLsbD_setWidth, BitVec.getLsbD_append]
    interval_cases i <;> simp [BitVec.getElem_signExtend, hnibble]
  rw [← Int16.toInt_toBitVec, hbits, toInt_setWidth_twelve]

theorem toInt_decodeH4 (high nibbles : UInt8) :
    (promote high <<< 4 ||| promote (nibbles &&& 0x0F)).toInt16.toInt =
      (high.toBitVec ++ nibbles.toBitVec.extractLsb' 0 4 : BitVec 12).toNat := by
  refine toInt_shift_or high (BitVec.eq_of_getLsbD_eq fun i hi => ?_)
  interval_cases i <;> simp

theorem toInt_decodeH5 (high nibbles : UInt8) :
    (promote high <<< 4 ||| promote (nibbles >>> 4)).toInt16.toInt =
      (high.toBitVec ++ nibbles.toBitVec.extractLsb' 4 4 : BitVec 12).toNat := by
  refine toInt_shift_or high (BitVec.eq_of_getLsbD_eq fun i hi => ?_)
  interval_cases i <;> simp

theorem toNat_eq_toInt_iff (x : BitVec 12) : (x.toNat : ℤ) = x.toInt ↔ 0 ≤ x.toInt := by
  have hx := x.isLt
  rw [BitVec.toInt_eq_toNat_cond]
  split <;> omega

theorem eq_ofInt_iff {x : BitVec 12} {word : Int16} (h : word.toInt = x.toNat) :
    word = .ofInt x.toInt ↔ 0 ≤ x.toInt := by
  have hlow := x.le_toInt
  have hhigh := x.toInt_lt
  rw [← Int16.toInt_inj, Int16.toInt_ofInt_of_le (by omega) (by omega), h, toNat_eq_toInt_iff]

theorem Bme280Driver.loadCalibration_ofRegisters (registers : UInt8 → UInt8) (d : Bme280Driver) :
    d.loadCalibration (.ofRegisters registers) = (true, { d with
      calibration :=
        { digT1 := readUint16Le (registers 0x88) (registers (0x88 + 1))
          digT2 := readInt16Le (registers 0x8A) (registers (0x8A + 1))
          digT3 := readInt16Le (registers 0x8C) (registers (0x8C + 1))
          digH1 := registers 0xA1
          digH2 := readInt16Le (registers 0xE1) (registers (0xE1 + 1))
          digH3 := registers 0xE3
          digH4 := (promote (registers 0xE4) <<< 4 |||
            promote (registers 0xE5 &&& 0x0F)).toInt16
          digH5 := (promote (registers 0xE6) <<< 4 |||
            promote (registers 0xE5 >>> 4)).toInt16
          digH6 := (registers 0xE7).toInt8 } }) := by
  simp [loadCalibration, I2cBus.ofRegisters]

namespace Coefficients

variable {registers : UInt8 → UInt8} {k : Coefficients}

theorem LaidOut.loadCalibration_eq (h : k.LaidOut registers) (d : Bme280Driver) :
    ∃ h4 h5 : Int16, h4.toInt = k.h4.toNat ∧ h5.toInt = k.h5.toNat ∧
      d.loadCalibration (.ofRegisters registers) =
        (true, { d with calibration := { k.calibration with digH4 := h4, digH5 := h5 } }) := by
  have hh4 := toInt_decodeH4 (registers 0xE4) (registers 0xE5)
  have hh5 := toInt_decodeH5 (registers 0xE6) (registers 0xE5)
  have hload := d.loadCalibration_ofRegisters registers
  rw [h.h4High, h.h4Low, append_extractLsb' 8 4 k.h4] at hh4
  rw [h.h5High, h.h5Low, append_extractLsb' 8 4 k.h5] at hh5
  rw [h.t1.readUint16Le_eq, h.t2.readInt16Le_eq, h.t3.readInt16Le_eq, h.h1,
    h.h2.readInt16Le_eq, h.h3, h.h6] at hload
  exact ⟨_, _, hh4, hh5, hload⟩

/-- The stored calibration is the one of the coefficients exactly when neither `H4` nor `H5`
is negative. -/
theorem LaidOut.loadCalibration_iff (h : k.LaidOut registers) (d : Bme280Driver) :
    d.loadCalibration (.ofRegisters registers) = (true, { d with calibration := k.calibration }) ↔
      0 ≤ k.h4.toInt ∧ 0 ≤ k.h5.toInt := by
  obtain ⟨h4, h5, hh4, hh5, hload⟩ := h.loadCalibration_eq d
  rw [hload, ← eq_ofInt_iff hh4, ← eq_ofInt_iff hh5]
  constructor
  · intro hsame
    have hcalibration := congrArg (fun result => result.2.calibration) hsame
    exact ⟨congrArg Calibration.digH4 hcalibration, congrArg Calibration.digH5 hcalibration⟩
  · rintro ⟨rfl, rfl⟩
    rfl

/-- A sensor with a positive `H4` and `H5`: the driver stores its coefficients. -/
theorem LaidOut.loadCalibration_iff_positive :
    let k : Coefficients := ⟨28464, 26871, 50, 75, 363, 0, 323, 50, 30⟩
    ({} : Bme280Driver).loadCalibration (.ofRegisters k.registers) =
      (true, { calibration := k.calibration }) :=
  ((laidOut_registers ⟨28464, 26871, 50, 75, 363, 0, 323, 50, 30⟩).loadCalibration_iff {}).mpr
    (by decide)

/-- A sensor with `H4 = -1`: the driver stores 4095. -/
theorem LaidOut.loadCalibration_negative :
    ¬ ∀ (k : Coefficients) (registers : UInt8 → UInt8) (d : Bme280Driver),
      k.LaidOut registers → d.loadCalibration (.ofRegisters registers) =
        (true, { d with calibration := k.calibration }) := by
  intro h
  have hsame := h ⟨0, 0, 0, 0, 0, 0, -1, 0, 0⟩ _ {} (laidOut_registers _)
  have hh4 := congrArg (fun result => result.2.calibration.digH4) hsame
  exact absurd hh4 (by decide)

end Coefficients

end Bossa.Drivers
