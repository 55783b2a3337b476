import Bossa.Core.Word32
import Bossa.Telemetry.Sample

/-!
# The BME280 driver

`drivers/bme280/bme280_driver.cpp`, from the chip id on. The I2C bus is an argument of
every call, as a function from the bytes that are written to the answer. The formulas are
written with the rule for the results of 32-bit operations as a parameter, and the floating
point division at their end is exact.
-/

namespace Bossa.Drivers

open Telemetry

/-- An I2C bus: whether a write succeeds, and the bytes that are read after a write. -/
structure I2cBus where
  write : UInt8 → List UInt8 → Bool
  writeRead : UInt8 → List UInt8 → (count : ℕ) → Option (Vector UInt8 count)

/-- A bus with one device, which answers a read with the registers from the one that was
written on. -/
def I2cBus.ofRegisters (registers : UInt8 → UInt8) : I2cBus where
  write := fun _ _ => true
  writeRead := fun _ start count =>
    some (Vector.ofFn fun i : Fin count => registers (start.headD 0 + UInt8.ofNat i))

/-- `Bme280Driver::Calibration`. -/
structure Calibration where
  digT1 : UInt16 := 0
  digT2 : Int16 := 0
  digT3 : Int16 := 0
  digH1 : UInt8 := 0
  digH2 : Int16 := 0
  digH3 : UInt8 := 0
  digH4 : Int16 := 0
  digH5 : Int16 := 0
  digH6 : Int8 := 0
  deriving DecidableEq, Repr

/-- The state of a `Bme280Driver`. -/
structure Bme280Driver where
  address : UInt8 := 0x76
  calibration : Calibration := {}
  configured : Bool := false
  temperatureChannelId : Bytes := Bytes.ascii "ambient_temperature"
  humidityChannelId : Bytes := Bytes.ascii "ambient_humidity"
  deriving DecidableEq, Repr

/-- `read_uint16_le`. -/
def readUint16Le (low high : UInt8) : UInt16 := low.toUInt16 ||| high.toUInt16 <<< 8

/-- `read_int16_le`. -/
def readInt16Le (low high : UInt8) : Int16 := (readUint16Le low high).toInt16

/-- `static_cast<std::int16_t>` of a byte, promoted. -/
def promote (byte : UInt8) : Int32 := byte.toUInt16.toInt16.toInt32

def rawTemperature (high middle low : UInt8) : ℤ :=
  (high.toUInt32 <<< (12 : UInt32) ||| middle.toUInt32 <<< (4 : UInt32) |||
    low.toUInt32 >>> (4 : UInt32)).toNat

def rawHumidity (high low : UInt8) : ℤ :=
  (high.toUInt32 <<< (8 : UInt32) ||| low.toUInt32).toNat

namespace Bme280Driver

/-- `Bme280Driver::load_calibration`. The coefficients that were read before a failure
stay. -/
def loadCalibration (bus : I2cBus) (d : Bme280Driver) : Bool × Bme280Driver :=
  match bus.writeRead d.address [0x88] 26 with
  | none => (false, d)
  | some buffer =>
      let c :=
        { d.calibration with
          digT1 := readUint16Le buffer[0] buffer[1]
          digT2 := readInt16Le buffer[2] buffer[3]
          digT3 := readInt16Le buffer[4] buffer[5]
          digH1 := buffer[25] }
      match bus.writeRead d.address [0xE1] 7 with
      | none => (false, { d with calibration := c })
      | some humidity =>
          let c :=
            { c with
              digH2 := readInt16Le humidity[0] humidity[1]
              digH3 := humidity[2]
              digH4 := (promote humidity[3] <<< 4 ||| promote (humidity[4] &&& 0x0F)).toInt16
              digH5 := (promote humidity[5] <<< 4 ||| promote (humidity[4] >>> 4)).toInt16
              digH6 := humidity[6].toInt8 }
          (true, { d with calibration := c })

/-- `Bme280Driver::configure` behind the parameters, with the bus open; `none` when it
throws. -/
def connect (bus : I2cBus) (d : Bme280Driver) : Option Bme280Driver :=
  match bus.writeRead d.address [0xD0] 1 with
  | none => none
  | some chipId =>
      if chipId[0] ≠ 0x60 then none
      else
        let (loaded, d) := d.loadCalibration bus
        if !loaded then none else some { d with configured := true }

/-- `Bme280Driver::trigger_measurement`. -/
def triggerMeasurement (bus : I2cBus) (d : Bme280Driver) : Bool :=
  bus.write d.address [0xF2, 0x01] && bus.write d.address [0xF4, 0x25]

/-- `Bme280Driver::read_raw`: the raw temperature and humidity. -/
def readRaw (bus : I2cBus) (d : Bme280Driver) : Option (ℤ × ℤ) :=
  (bus.writeRead d.address [0xF7] 8).map fun buffer =>
    (rawTemperature buffer[3] buffer[4] buffer[5], rawHumidity buffer[6] buffer[7])

end Bme280Driver

/-- `Bme280Driver::compensate_temperature`: the temperature and the fine temperature. -/
def compensateTemperature (int32 : Rule32) (c : Calibration) (rawTemperature : ℤ) :
    Except Abort (ℚ × ℤ) := do
  let eighth ← int32 (rawTemperature >>> (3 : ℕ))
  let doubled ← int32 ((c.digT1.toNat : ℤ) <<< (1 : ℕ))
  let offset ← int32 (eighth - doubled)
  let product ← int32 (offset * c.digT2.toInt)
  let var1 ← int32 (product >>> (11 : ℕ))
  let sixteenth ← int32 (rawTemperature >>> (4 : ℕ))
  let offset ← int32 (sixteenth - c.digT1.toNat)
  let square ← int32 (offset * offset)
  let scaled ← int32 (square >>> (12 : ℕ))
  let product ← int32 (scaled * c.digT3.toInt)
  let var2 ← int32 (product >>> (14 : ℕ))
  let fine ← int32 (var1 + var2)
  let five ← int32 (fine * 5)
  let rounded ← int32 (five + 128)
  let hundredths ← int32 (rounded >>> (8 : ℕ))
  pure (hundredths / 100, fine)

/-- `compensate_humidity` in front of the clamp. -/
def humidityBeforeClamp (int32 : Rule32) (c : Calibration) (rawHumidity fineTemperature : ℤ) :
    Except Abort ℤ := do
  let var1 ← int32 (fineTemperature - 76800)
  let raw ← int32 (rawHumidity <<< (14 : ℕ))
  let constant ← int32 (c.digH4.toInt <<< (20 : ℕ))
  let difference ← int32 (raw - constant)
  let linear ← int32 (c.digH5.toInt * var1)
  let difference ← int32 (difference - linear)
  let rounded ← int32 (difference + 16384)
  let var2 ← int32 (rounded >>> (15 : ℕ))
  let product ← int32 (var1 * c.digH6.toInt)
  let left ← int32 (product >>> (10 : ℕ))
  let product ← int32 (var1 * c.digH3.toNat)
  let shifted ← int32 (product >>> (11 : ℕ))
  let right ← int32 (shifted + 32768)
  let product ← int32 (left * right)
  let shifted ← int32 (product >>> (10 : ℕ))
  let factor ← int32 (shifted + 2097152)
  let scaled ← int32 (factor * c.digH2.toInt)
  let var3 ← int32 (scaled + 8192)
  let slope ← int32 (var3 >>> (14 : ℕ))
  let var1 ← int32 (var2 * slope)
  let high ← int32 (var1 >>> (15 : ℕ))
  let square ← int32 (high * high)
  let shifted ← int32 (square >>> (7 : ℕ))
  let product ← int32 (shifted * c.digH1.toNat)
  let correction ← int32 (product >>> (4 : ℕ))
  int32 (var1 - correction)

/-- The clamp of `compensate_humidity`. -/
def clampHumidity (var1 : ℤ) : ℤ :=
  if var1 < 0 then 0 else if var1 > 419430400 then 419430400 else var1

/-- The value that `compensate_humidity` returns for a clamped one. -/
def humidityPercent (int32 : Rule32) (var1 : ℤ) : Except Abort ℚ := do
  let hundredths ← int32 (var1 >>> (12 : ℕ))
  pure (hundredths / 100)

/-- `Bme280Driver::compensate_humidity`. -/
def compensateHumidity (int32 : Rule32) (c : Calibration) (rawHumidity fineTemperature : ℤ) :
    Except Abort ℚ := do
  let var1 ← humidityBeforeClamp int32 c rawHumidity fineTemperature
  humidityPercent int32 (clampHumidity var1)

/-- `Bme280Driver::read` at the reading `now` of the system clock. -/
def Bme280Driver.read (int32 : Rule32) (bus : I2cBus) (now : ℤ) (d : Bme280Driver) :
    Except Abort (List Sample) :=
  if !d.configured then pure []
  else if !d.triggerMeasurement bus then pure []
  else
    match d.readRaw bus with
    | none => pure []
    | some (rawTemperature, rawHumidity) => do
        let (celsius, fineTemperature) ←
          compensateTemperature int32 d.calibration rawTemperature
        let percent ← compensateHumidity int32 d.calibration rawHumidity fineTemperature
        pure
          [{ channelId := d.temperatureChannelId
             value := .finite celsius
             timestamp := now
             unit := Bytes.ascii "celsius"
             quality := .good
             origin := 0 },
            { channelId := d.humidityChannelId
              value := .finite percent
              timestamp := now
              unit := Bytes.ascii "percent"
              quality := .good
              origin := 0 }]

end Bossa.Drivers
