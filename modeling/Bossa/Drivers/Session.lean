import Mathlib.Data.Finset.Option
import Bossa.Drivers.Humidity
import Bossa.Drivers.Parameters
import Bossa.Io.LinuxI2cBus
import Bossa.Transition.Resources

/-!
# The session of a driver with its sensor

A `Bme280Driver` of `drivers/bme280/bme280_driver.cpp` with the `LinuxI2cBus` that it owns, and
everything that happens to it from its creation to its destruction: its calls, what they ask
of the kernel and what comes out of them.

What such a life may look like is said by `Session`, a machine that reads its events one by
one. It knows the next transfer and what follows from the answer: a sensor is asked for its
chip id and its coefficients before anything is written to it, every measurement is begun by
two control registers and read behind them, and what `read` returns is computed from the bytes
that were transferred.
-/

namespace Bossa.Drivers

open Io Telemetry

/-- What happens to a driver: the calls of its owner with what they return or throw, and the
events of its bus. A reading is returned with the system time it was taken at. -/
inductive DriverEvent where
  | created (name : Bytes)
  | configuring (parameters : Json)
  | bus (e : BusEvent)
  | threw (what : Bytes)
  | configured
  | returned (now : ℤ) (samples : List Sample)
  | destroyed

def DriverEvent.returnedSamples : DriverEvent → List Sample
  | .returned _ samples => samples
  | _ => []

theorem DriverEvent.returnedSamples_bus (events : List BusEvent) :
    (events.map DriverEvent.bus).flatMap DriverEvent.returnedSamples = [] := by
  rw [List.flatMap_map, List.flatMap_eq_nil_iff]
  exact fun _ _ => rfl

/-- A driver with its bus, which `configure` creates; until then it is closed. -/
structure Bme280 where
  driver : Bme280Driver := {}
  bus : LinuxI2cBus := {}

namespace Bme280Driver

/-- The message of `configure` when the bus does not open. -/
def openFault (path : Bytes) : Bytes :=
  Bytes.ascii "bme280: failed to open I2C bus: " ++ path

/-- What `configure` throws behind the opening of the bus, when it throws. -/
def connectFault (bus : I2cBus) (d : Bme280Driver) : Bytes :=
  match bus.writeRead d.address [0xD0] 1 with
  | none => Bytes.ascii "bme280: failed to read chip id"
  | some chipId =>
      if chipId.get 0 ≠ 0x60 then Bytes.ascii "bme280: unexpected chip id"
      else Bytes.ascii "bme280: failed to load calibration data"

/-- What `load_calibration` asks of the kernel. -/
def loadCalibrationEvents (kernel : I2cBus) (bus : LinuxI2cBus) (d : Bme280Driver) :
    List BusEvent :=
  let block := bus.writeRead kernel d.address [0x88] 26
  block.2 ++
    if block.1.isNone then [] else (bus.writeRead kernel d.address [0xE1] 7).2

/-- What `configure` asks of the kernel once the bus is open. -/
def connectEvents (kernel : I2cBus) (bus : LinuxI2cBus) (d : Bme280Driver) : List BusEvent :=
  let chipId := bus.writeRead kernel d.address [0xD0] 1
  chipId.2 ++
    match chipId.1 with
    | none => []
    | some id => if id.get 0 ≠ 0x60 then [] else d.loadCalibrationEvents kernel bus

/-- What `read` asks of the kernel. -/
def readEvents (kernel : I2cBus) (bus : LinuxI2cBus) (d : Bme280Driver) : List BusEvent :=
  if !d.configured then []
  else
    let humidity := bus.write kernel d.address [0xF2, 0x01]
    humidity.2 ++
      if !humidity.1 then []
      else
        let measure := bus.write kernel d.address [0xF4, 0x25]
        measure.2 ++
          if !measure.1 then [] else (bus.writeRead kernel d.address [0xF7] 8).2

end Bme280Driver

namespace Bme280

/-- `Bme280Driver::configure`: what it throws, if it does, what it asks of the kernel and the
driver. After a throw a driver is only destroyed, so the coefficients that were read before it
are not kept. -/
def configure (undefined : ℤ) (fd : Option ℕ) (kernel : I2cBus) (parameters : Json)
    (s : Bme280) : Option Bytes × List BusEvent × Bme280 :=
  match s.driver.readParameters undefined parameters with
  | (.error what, d) => (some what, [], { s with driver := d })
  | (.ok path, d) =>
      let (opened, events, bus) := s.bus.open fd path
      if !opened then (some (Bme280Driver.openFault path), events, ⟨d, bus⟩)
      else
        let events := events ++ d.connectEvents kernel bus
        match d.connect (bus.seen kernel) with
        | none => (some (d.connectFault (bus.seen kernel)), events, ⟨d, bus⟩)
        | some d => (none, events, ⟨d, bus⟩)

/-- `Bme280Driver::read` with 32-bit arithmetic that wraps. -/
def read (kernel : I2cBus) (now : ℤ) (s : Bme280) : List BusEvent × List Sample :=
  (s.driver.readEvents kernel s.bus,
    match s.driver.read wrap32 (s.bus.seen kernel) now with
    | .ok samples => samples
    | .error _ => [])

/-- The events of a call of `configure`. -/
def configureEvents (parameters : Json) (result : Option Bytes × List BusEvent × Bme280) :
    List DriverEvent :=
  .configuring parameters :: (result.2.1.map .bus ++
    [match result.1 with
      | some what => .threw what
      | none => .configured])

/-- The events of a call of `read`. -/
def readEvents (kernel : I2cBus) (now : ℤ) (s : Bme280) : List DriverEvent :=
  (s.read kernel now).1.map .bus ++ [.returned now (s.read kernel now).2]

/-- The events of the destructor. -/
def destroyEvents (s : Bme280) : List DriverEvent :=
  s.bus.close.map .bus ++ [.destroyed]

end Bme280

/-- What a driver asks its sensor next. -/
inductive Question where
  | chipId
  | calibration
  | humidityCalibration
  | controlHumidity
  | controlMeasure
  | measurement
  deriving DecidableEq, Repr

namespace Question

/-- The bytes of the question: the register, and what is written to it. -/
def data : Question → List UInt8
  | chipId => [0xD0]
  | calibration => [0x88]
  | humidityCalibration => [0xE1]
  | controlHumidity => [0xF2, 0x01]
  | controlMeasure => [0xF4, 0x25]
  | measurement => [0xF7]

def count : Question → ℕ
  | chipId => 1
  | calibration => 26
  | humidityCalibration => 7
  | controlHumidity => 0
  | controlMeasure => 0
  | measurement => 8

/-- The questions that have been answered before a question. -/
def before : Question → List Question
  | chipId => []
  | calibration => [chipId]
  | humidityCalibration => [chipId, calibration]
  | controlHumidity | controlMeasure | measurement => [chipId, calibration, humidityCalibration]

theorem before_of_count {q : Question} (h : q.count = 0) : q.before = controlHumidity.before := by
  cases q with
  | controlHumidity | controlMeasure => rfl
  | _ => cases h

end Question

/-- How far the session of a driver with its sensor has come. -/
inductive Session where
  | absent
  /-- A driver of another kind. -/
  | other
  | created
  | chosen (path : Bytes) (d : Bme280Driver)
  | asking (q : Question) (d : Bme280Driver) (fd : ℕ)
  | loaded (d : Bme280Driver) (fd : ℕ)
  /-- A call of `read` has failed and must return nothing. -/
  | silent (d : Bme280Driver) (fd : ℕ)
  | measured (rawTemperature rawHumidity : ℤ) (d : Bme280Driver) (fd : ℕ)
  /-- A call of `configure` must throw. -/
  | failed (what : Bytes) (fd : Option ℕ)
  | ended (fd : Option ℕ)
  | gone
  deriving DecidableEq

def Calibration.readFirst (block : List UInt8) (c : Calibration) : Calibration :=
  { c with
    digT1 := readUint16Le (block.getD 0 0) (block.getD 1 0)
    digT2 := readInt16Le (block.getD 2 0) (block.getD 3 0)
    digT3 := readInt16Le (block.getD 4 0) (block.getD 5 0)
    digH1 := block.getD 25 0 }

/-- The coefficients of the humidity in a block of registers. -/
def Calibration.readHumidity (block : List UInt8) (c : Calibration) : Calibration :=
  { c with
    digH2 := readInt16Le (block.getD 0 0) (block.getD 1 0)
    digH3 := block.getD 2 0
    digH4 := (promote (block.getD 3 0) <<< 4 ||| promote (block.getD 4 0 &&& 0x0F)).toInt16
    digH5 := (promote (block.getD 5 0) <<< 4 ||| promote (block.getD 4 0 >>> 4)).toInt16
    digH6 := (block.getD 6 0).toInt8 }

def Bme280Driver.report (d : Bme280Driver) (rawTemperature rawHumidity now : ℤ) :
    Except Abort (List Sample) := do
  let (celsius, fine) ← compensateTemperature wrap32 d.calibration rawTemperature
  let percent ← compensateHumidity wrap32 d.calibration rawHumidity fine
  pure
    [⟨d.temperatureChannelId, .finite celsius, now, Bytes.ascii "celsius", .good, 0⟩,
      ⟨d.humidityChannelId, .finite percent, now, Bytes.ascii "percent", .good, 0⟩]

namespace Session

/-- What follows from the answer to a question. -/
def answered (d : Bme280Driver) (fd : ℕ) : Question → Option (List UInt8) → Session
  | .chipId, none => .failed (Bytes.ascii "bme280: failed to read chip id") (some fd)
  | .chipId, some block =>
      if block = [0x60] then .asking .calibration d fd
      else .failed (Bytes.ascii "bme280: unexpected chip id") (some fd)
  | .calibration, some block =>
      .asking .humidityCalibration { d with calibration := d.calibration.readFirst block } fd
  | .humidityCalibration, some block =>
      .loaded
        { d with calibration := d.calibration.readHumidity block, configured := true } fd
  | .calibration, none | .humidityCalibration, none =>
      .failed (Bytes.ascii "bme280: failed to load calibration data") (some fd)
  | .controlHumidity, some _ => .asking .controlMeasure d fd
  | .controlMeasure, some _ => .asking .measurement d fd
  | .measurement, some block =>
      .measured (rawTemperature (block.getD 3 0) (block.getD 4 0) (block.getD 5 0))
        (rawHumidity (block.getD 6 0) (block.getD 7 0)) d fd
  | .controlHumidity, none | .controlMeasure, none | .measurement, none => .silent d fd

/-- The session behind the next event, unless the event has no place there. Between two
readings a driver is about to write the first control register. -/
def step (undefined : ℤ) : Session → DriverEvent → Option Session
  | .absent, .created name =>
      some (if name = Bytes.ascii "bme280" then .created else .other)
  | .other, .destroyed => some .gone
  | .other, .configuring _ | .other, .threw _ | .other, .configured | .other, .returned _ _ =>
      some .other
  | .created, .configuring parameters =>
      match Bme280Driver.readParameters undefined parameters {} with
      | (.error what, _) => some (.failed what none)
      | (.ok path, d) =>
          some (if path = [] then .failed (Bme280Driver.openFault []) none else .chosen path d)
  | .chosen path d, .bus (.opened path' fd) =>
      if path' = Bytes.cString path then
        some
          (match fd with
          | none => .failed (Bme280Driver.openFault path) none
          | some fd => .asking .chipId d fd)
      else none
  | .asking q d fd, .bus (.transfer fd' t) =>
      if fd' = fd ∧ t.address = d.address ∧ t.data = q.data ∧ t.count = q.count then
        some (answered d fd q t.answer)
      else none
  | .asking .controlHumidity _ fd, .bus (.closed fd') =>
      if fd' = fd then some (.ended none) else none
  | .loaded d fd, .configured => some (.asking .controlHumidity d fd)
  | .silent d fd, .returned _ [] => some (.asking .controlHumidity d fd)
  | .measured t h d fd, .returned now samples =>
      match d.report t h now with
      | .ok samples' => if samples = samples' then some (.asking .controlHumidity d fd) else none
      | .error _ => none
  | .failed what fd, .threw what' => if what' = what then some (.ended fd) else none
  | .ended (some fd), .bus (.closed fd') => if fd' = fd then some (.ended none) else none
  | .ended none, .destroyed => some .gone
  | _, _ => none

/-- A session that goes on with the events. -/
abbrev Run (undefined : ℤ) : Session → List DriverEvent → Session → Prop :=
  Transition.Run fun s e t => step undefined s e = some t

end Session

variable {undefined : ℤ} {kernel : I2cBus} {bus : LinuxI2cBus} {d : Bme280Driver} {fd : ℕ}

section Bus

theorem writeRead_of_open (hfd : bus.fd = some fd) {data : List UInt8} {count : ℕ}
    (hdata : data ≠ []) (hcount : count ≠ 0) (address : UInt8) :
    bus.writeRead kernel address data count =
      (kernel.writeRead address data count,
        [.transfer fd ⟨address, data, count,
          (kernel.writeRead address data count).map Vector.toList⟩]) := by
  simp [LinuxI2cBus.writeRead, hfd, hdata, hcount]

theorem write_of_open (hfd : bus.fd = some fd) {data : List UInt8} (hdata : data ≠ [])
    (address : UInt8) :
    bus.write kernel address data =
      (kernel.write address data,
        [.transfer fd ⟨address, data, 0,
          if kernel.write address data then some [] else none⟩]) := by
  simp [LinuxI2cBus.write, hfd, hdata]

theorem seen_of_open (hfd : bus.fd = some fd) {data : List UInt8} (hdata : data ≠ [])
    (address : UInt8) :
    (bus.seen kernel).write address data = kernel.write address data ∧
      ∀ {count : ℕ}, count ≠ 0 →
        (bus.seen kernel).writeRead address data count = kernel.writeRead address data count :=
  ⟨congrArg Prod.fst (write_of_open hfd hdata address),
    fun hcount => congrArg Prod.fst (writeRead_of_open hfd hdata hcount address)⟩

end Bus

theorem getD_toList {n : ℕ} (v : Vector UInt8 n) {i : ℕ} (hi : i < n) :
    v.toList.getD i 0 = v[i] := by
  simp [List.getD, hi]

namespace Session

theorem Run.ask (q : Question) (answer : Option (List UInt8)) :
    Run undefined (.asking q d fd)
      [.bus (.transfer fd ⟨d.address, q.data, q.count, answer⟩)] (answered d fd q answer) :=
  .snoc .nil (by simp [step])

theorem run_loadCalibration (hfd : bus.fd = some fd) :
    Run undefined (.asking .calibration d fd)
      ((d.loadCalibrationEvents kernel bus).map .bus)
      (if (d.loadCalibration (bus.seen kernel)).1 then
        .loaded { (d.loadCalibration (bus.seen kernel)).2 with configured := true } fd
      else .failed (Bytes.ascii "bme280: failed to load calibration data") (some fd)) := by
  have hseen := @seen_of_open kernel bus fd hfd
  have hask := fun (d : Bme280Driver) (fd : ℕ) => @Run.ask undefined d fd
  unfold Bme280Driver.loadCalibrationEvents Bme280Driver.loadCalibration
  rw [(hseen (List.cons_ne_nil _ _) d.address).2 (by decide : (26 : ℕ) ≠ 0),
    writeRead_of_open hfd (List.cons_ne_nil _ _) (by decide : (26 : ℕ) ≠ 0)]
  cases hblock : kernel.writeRead d.address [0x88] 26 with
  | none => exact hask d fd .calibration none
  | some block =>
      have hfirst := hask d fd .calibration (some block.toList)
      dsimp only [Option.isNone_some]
      rw [(hseen (List.cons_ne_nil _ _) d.address).2 (by decide : (7 : ℕ) ≠ 0),
        writeRead_of_open hfd (List.cons_ne_nil _ _) (by decide : (7 : ℕ) ≠ 0)]
      cases hhumidity : kernel.writeRead d.address [0xE1] 7 with
      | none =>
          exact hfirst.append (hask { d with calibration := _ } fd .humidityCalibration none)
      | some humidity =>
          have hsecond := hask { d with calibration := d.calibration.readFirst block.toList } fd
            .humidityCalibration (some humidity.toList)
          have hall := hfirst.append hsecond
          simpa [answered, Calibration.readFirst, Calibration.readHumidity, getD_toList,
            Question.data, Question.count] using hall

/-- Identifying the sensor and reading its coefficients. -/
theorem run_connect (hfd : bus.fd = some fd) :
    Run undefined (.asking .chipId d fd) ((d.connectEvents kernel bus).map .bus)
      (match d.connect (bus.seen kernel) with
      | none => .failed (d.connectFault (bus.seen kernel)) (some fd)
      | some d' => .loaded d' fd) := by
  unfold Bme280Driver.connectEvents Bme280Driver.connect Bme280Driver.connectFault
  rw [(seen_of_open hfd (List.cons_ne_nil _ _) d.address).2 (by decide : (1 : ℕ) ≠ 0),
    writeRead_of_open hfd (List.cons_ne_nil _ _) (by decide : (1 : ℕ) ≠ 0)]
  cases hid : kernel.writeRead d.address [0xD0] 1 with
  | none => exact Run.ask .chipId none
  | some chipId =>
      have hlist : chipId.toList = [chipId[0]] := by
        refine List.ext_getElem (by simp) fun i hi _ => ?_
        have hzero : i = 0 := by simpa using hi
        simp [hzero]
      have hfirst := @Run.ask undefined d fd .chipId (some chipId.toList)
      have hget : chipId.get 0 = chipId[0] := rfl
      dsimp only
      rw [hget]
      by_cases hchip : chipId[0] ≠ 0x60
      · rw [if_pos hchip, if_pos hchip, if_pos hchip]
        have hne : chipId.toList ≠ [0x60] := by simpa [hlist] using hchip
        rwa [answered, if_neg hne, ← List.append_nil [DriverEvent.bus _]] at hfirst
      · rw [if_neg hchip, if_neg hchip, if_neg hchip]
        have heq : chipId.toList = [0x60] := by simpa [hlist] using hchip
        rw [answered, if_pos heq] at hfirst
        have hall := hfirst.append (@run_loadCalibration undefined kernel bus d fd hfd)
        rcases hloaded : d.loadCalibration (bus.seen kernel) with ⟨loaded, d'⟩
        rw [hloaded] at hall
        cases loaded with
        | false => exact hall
        | true => exact hall

end Session

/-- The session of a configured driver between two calls. -/
def Bme280.Idle (s : Bme280) (session : Session) : Prop :=
  ∃ fd, s.bus.fd = some fd ∧ s.driver.configured = true ∧
    session = .asking .controlHumidity s.driver fd

namespace Session

theorem connect_configured {i2c : I2cBus} {d' : Bme280Driver} (h : d.connect i2c = some d') :
    d'.configured = true := by
  unfold Bme280Driver.connect at h
  split at h
  · cases h
  · split at h
    · cases h
    · split at h
      · split at h
        · cases h
        · cases h
          rfl

section Configure

variable {opens : Option ℕ} {parameters : Json} {path what : Bytes}

theorem configure_of_refused
    (hread : Bme280Driver.readParameters undefined parameters {} = (.error what, d)) :
    Bme280.configure undefined opens kernel parameters {} = (some what, [], ⟨d, {}⟩) := by
  rw [Bme280.configure, hread]

theorem configure_of_no_path
    (hread : Bme280Driver.readParameters undefined parameters {} = (.ok [], d)) :
    Bme280.configure undefined opens kernel parameters {} =
      (some (Bme280Driver.openFault []), [], ⟨d, {}⟩) := by
  rw [Bme280.configure, hread]
  rfl

theorem configure_of_closed
    (hread : Bme280Driver.readParameters undefined parameters {} = (.ok path, d))
    (hpath : path ≠ []) :
    Bme280.configure undefined none kernel parameters {} =
      (some (Bme280Driver.openFault path), [.opened (Bytes.cString path) none], ⟨d, {}⟩) := by
  rw [Bme280.configure, hread]
  simp [LinuxI2cBus.open, LinuxI2cBus.close, hpath]

theorem configure_of_open
    (hread : Bme280Driver.readParameters undefined parameters {} = (.ok path, d))
    (hpath : path ≠ []) :
    Bme280.configure undefined (some fd) kernel parameters {} =
      match d.connect (LinuxI2cBus.seen kernel ⟨some fd, path⟩) with
      | none =>
          (some (d.connectFault (LinuxI2cBus.seen kernel ⟨some fd, path⟩)),
            .opened (Bytes.cString path) (some fd) :: d.connectEvents kernel ⟨some fd, path⟩,
            ⟨d, ⟨some fd, path⟩⟩)
      | some d' =>
          (none, .opened (Bytes.cString path) (some fd) :: d.connectEvents kernel ⟨some fd, path⟩,
            ⟨d', ⟨some fd, path⟩⟩) := by
  rw [Bme280.configure, hread]
  simp [LinuxI2cBus.open, LinuxI2cBus.close, hpath]

end Configure

/-- A call of `configure` leads a new driver to its first reading, or to its end. -/
theorem run_configure (opens : Option ℕ) (kernel : I2cBus) (parameters : Json)
    {result : Option Bytes × List BusEvent × Bme280}
    (hresult : Bme280.configure undefined opens kernel parameters {} = result) :
    (∀ what, result.1 = some what →
      Run undefined .created (Bme280.configureEvents parameters result)
        (.ended result.2.2.bus.fd)) ∧
      (result.1 = none → ∃ session, result.2.2.Idle session ∧
        Run undefined .created (Bme280.configureEvents parameters result) session) := by
  subst hresult
  rcases hread : Bme280Driver.readParameters undefined parameters {} with ⟨what | path, d⟩
  · have hrefused : step undefined .created (.configuring parameters) =
        some (.failed what none) := by
      rw [step, hread]
    rw [configure_of_refused hread]
    refine ⟨?_, nofun⟩
    rintro _ ⟨⟩
    exact .cons hrefused (.snoc .nil (if_pos rfl))
  have hchosen : step undefined .created (.configuring parameters) =
      some (if path = [] then .failed (Bme280Driver.openFault []) none else .chosen path d) := by
    rw [step, hread]
  by_cases hpath : path = []
  · subst hpath
    rw [if_pos rfl] at hchosen
    rw [configure_of_no_path hread]
    have hthrew : step undefined (.failed (Bme280Driver.openFault []) none)
        (.threw (Bme280Driver.openFault [])) = some (.ended none) := by
      rw [step, if_pos rfl]
    refine ⟨?_, nofun⟩
    rintro _ ⟨⟩
    exact .cons hchosen (.snoc .nil hthrew)
  rw [if_neg hpath] at hchosen
  cases opens with
  | none =>
      have hopened : step undefined (.chosen path d) (.bus (.opened (Bytes.cString path) none)) =
          some (.failed (Bme280Driver.openFault path) none) := if_pos rfl
      rw [configure_of_closed hread hpath]
      refine ⟨?_, nofun⟩
      rintro _ ⟨⟩
      exact .cons hchosen (.cons hopened (.snoc .nil (if_pos rfl)))
  | some fd =>
      have hopened : step undefined (.chosen path d)
          (.bus (.opened (Bytes.cString path) (some fd))) = some (.asking .chipId d fd) :=
        if_pos rfl
      have hconnect := @run_connect undefined kernel ⟨some fd, path⟩ d fd rfl
      rw [configure_of_open hread hpath]
      cases hconnected : d.connect (LinuxI2cBus.seen kernel ⟨some fd, path⟩) with
      | none =>
          rw [hconnected] at hconnect
          refine ⟨?_, nofun⟩
          rintro _ ⟨⟩
          exact .cons hchosen (.cons hopened (hconnect.append (.snoc .nil (if_pos rfl))))
      | some d' =>
          rw [hconnected] at hconnect
          refine ⟨nofun, fun _ => ⟨_, ⟨fd, rfl, connect_configured hconnected, rfl⟩, ?_⟩⟩
          exact .cons hchosen (.cons hopened (hconnect.append (.snoc .nil rfl)))

theorem report_ok (d : Bme280Driver) (t h now : ℤ) : ∃ samples, d.report t h now = .ok samples := by
  obtain ⟨celsius, htemperature⟩ := compensateTemperature_eq d.calibration t
  obtain ⟨percent, hhumidity, -⟩ :=
    compensateHumidity_bounds (humidityBeforeClamp_eq d.calibration t h)
  simp only [Bme280Driver.report, htemperature, hhumidity, bind, Except.bind, pure, Except.pure]
  exact ⟨_, rfl⟩

theorem read_of_configured {s : Bme280} (hfd : s.bus.fd = some fd)
    (hconfigured : s.driver.configured = true) (kernel : I2cBus) (now : ℤ) :
    s.read kernel now =
      let ask (q : Question) (answer : Option (List UInt8)) : BusEvent :=
        .transfer fd ⟨s.driver.address, q.data, q.count, answer⟩
      if !kernel.write s.driver.address [0xF2, 0x01] then ([ask .controlHumidity none], [])
      else if !kernel.write s.driver.address [0xF4, 0x25] then
        ([ask .controlHumidity (some []), ask .controlMeasure none], [])
      else
        match kernel.writeRead s.driver.address [0xF7] 8 with
        | none =>
            ([ask .controlHumidity (some []), ask .controlMeasure (some []),
              ask .measurement none], [])
        | some block =>
            ([ask .controlHumidity (some []), ask .controlMeasure (some []),
              ask .measurement (some block.toList)],
              match s.driver.report
                (rawTemperature (block.toList.getD 3 0) (block.toList.getD 4 0)
                  (block.toList.getD 5 0))
                (rawHumidity (block.toList.getD 6 0) (block.toList.getD 7 0)) now with
              | .ok samples => samples
              | .error _ => []) := by
  have htrigger : s.driver.triggerMeasurement (s.bus.seen kernel) =
      (kernel.write s.driver.address [0xF2, 0x01] &&
        kernel.write s.driver.address [0xF4, 0x25]) := by
    rw [Bme280Driver.triggerMeasurement, (seen_of_open hfd (List.cons_ne_nil _ _) _).1,
      (seen_of_open hfd (List.cons_ne_nil _ _) _).1]
  have hraw : s.driver.readRaw (s.bus.seen kernel) =
      (kernel.writeRead s.driver.address [0xF7] 8).map fun block =>
        (rawTemperature (block.toList.getD 3 0) (block.toList.getD 4 0) (block.toList.getD 5 0),
          rawHumidity (block.toList.getD 6 0) (block.toList.getD 7 0)) := by
    rw [Bme280Driver.readRaw,
      (seen_of_open hfd (List.cons_ne_nil _ _) _).2 (by decide : (8 : ℕ) ≠ 0)]
    simp only [getD_toList _ (by decide : 3 < 8), getD_toList _ (by decide : 4 < 8),
      getD_toList _ (by decide : 5 < 8), getD_toList _ (by decide : 6 < 8),
      getD_toList _ (by decide : 7 < 8)]
  rw [Bme280.read, Bme280Driver.readEvents, Bme280Driver.read, htrigger, hraw, hconfigured,
    write_of_open hfd (List.cons_ne_nil _ _), write_of_open hfd (List.cons_ne_nil _ _),
    writeRead_of_open hfd (List.cons_ne_nil _ _) (by decide : (8 : ℕ) ≠ 0)]
  cases kernel.write s.driver.address [0xF2, 0x01] with
  | false => rfl
  | true =>
      cases kernel.write s.driver.address [0xF4, 0x25] with
      | false => rfl
      | true =>
          cases kernel.writeRead s.driver.address [0xF7] 8 with
          | none => rfl
          | some block => rfl

theorem run_read {s : Bme280} {session : Session} (h : s.Idle session) (kernel : I2cBus)
    (now : ℤ) : Run undefined session (s.readEvents kernel now) session := by
  obtain ⟨fd, hfd, hconfigured, rfl⟩ := h
  have hask := @Run.ask undefined s.driver fd
  have hsilent : Run undefined (.silent s.driver fd) [.returned now []]
      (.asking .controlHumidity s.driver fd) := .snoc .nil rfl
  unfold Bme280.readEvents
  rw [read_of_configured hfd hconfigured]
  dsimp only
  split
  · exact (hask .controlHumidity none).append hsilent
  · split
    · exact (hask .controlHumidity (some [])).append ((hask .controlMeasure none).append hsilent)
    · have htriggered := (hask .controlHumidity (some [])).append (hask .controlMeasure (some []))
      split
      · exact htriggered.append ((hask .measurement none).append hsilent)
      · next block _ =>
          obtain ⟨samples, hreport⟩ := report_ok s.driver
            (rawTemperature (block.toList.getD 3 0) (block.toList.getD 4 0)
              (block.toList.getD 5 0))
            (rawHumidity (block.toList.getD 6 0) (block.toList.getD 7 0)) now
          have hreturned : step undefined
              (answered s.driver fd .measurement (some block.toList)) (.returned now samples) =
                some (.asking .controlHumidity s.driver fd) := by
            rw [answered, step, hreport]
            exact if_pos rfl
          rw [hreport]
          exact htriggered.append ((hask .measurement (some block.toList)).append
            (.snoc .nil hreturned))

theorem run_destroy {s : Bme280} {session : Session} (h : s.Idle session) :
    Run undefined session s.destroyEvents .gone := by
  obtain ⟨fd, hfd, -, rfl⟩ := h
  have hclosed : step undefined (.asking .controlHumidity s.driver fd) (.bus (.closed fd)) =
      some (.ended none) := if_pos rfl
  rw [Bme280.destroyEvents, LinuxI2cBus.close, hfd]
  exact .cons hclosed (.snoc .nil rfl)

theorem run_destroy_ended (s : Bme280) :
    Run undefined (.ended s.bus.fd) s.destroyEvents .gone := by
  unfold Bme280.destroyEvents LinuxI2cBus.close
  cases s.bus.fd with
  | none => exact .snoc .nil rfl
  | some fd =>
      have hclosed : step undefined (.ended (some fd)) (.bus (.closed fd)) =
          some (.ended none) := if_pos rfl
      exact .cons hclosed (.snoc .nil rfl)

def fd? : Session → Option ℕ
  | absent | other | created | chosen _ _ | gone => none
  | asking _ _ fd | loaded _ fd | silent _ fd | measured _ _ _ fd => some fd
  | failed _ fd | ended fd => fd

/-- The address, the descriptor and the questions that have been answered. -/
def learned : Session → List (UInt8 × ℕ × Question)
  | asking q d fd => q.before.map fun q' => (d.address, fd, q')
  | loaded d fd | silent d fd | measured _ _ d fd =>
      Question.controlHumidity.before.map fun q' => (d.address, fd, q')
  | _ => []

theorem step_cases {s t : Session} {e : DriverEvent} (h : step undefined s e = some t) :
    (∃ q d fd answer, s = .asking q d fd ∧
        e = .bus (.transfer fd ⟨d.address, q.data, q.count, answer⟩) ∧
        t = answered d fd q answer) ∨
      (∃ path fd, e = .bus (.opened path fd) ∧ s.fd? = none ∧ t.fd? = fd ∧ t.learned = []) ∨
      (∃ fd, e = .bus (.closed fd) ∧ s.fd? = some fd ∧ t.fd? = none ∧ t.learned = []) ∨
      (∀ e', e ≠ .bus e') ∧ t.fd? = s.fd? ∧ t.learned ⊆ s.learned := by
  unfold step at h
  split at h
  · cases h
    refine .inr (.inr (.inr ⟨nofun, ?_, ?_⟩)) <;> split <;> simp [fd?, learned]
  · cases h
    exact .inr (.inr (.inr ⟨nofun, rfl, List.Subset.refl _⟩))
  · cases h
    exact .inr (.inr (.inr ⟨nofun, rfl, List.Subset.refl _⟩))
  · cases h
    exact .inr (.inr (.inr ⟨nofun, rfl, List.Subset.refl _⟩))
  · cases h
    exact .inr (.inr (.inr ⟨nofun, rfl, List.Subset.refl _⟩))
  · cases h
    exact .inr (.inr (.inr ⟨nofun, rfl, List.Subset.refl _⟩))
  · split at h
    · cases h
      exact .inr (.inr (.inr ⟨nofun, rfl, List.Subset.refl _⟩))
    · cases h
      refine .inr (.inr (.inr ⟨nofun, ?_, ?_⟩)) <;> split <;> simp [fd?, learned]
  · next path d path' fd =>
      obtain ⟨-, h⟩ := Option.ite_none_right_eq_some.mp h
      cases h
      exact .inr (.inl ⟨path', fd, rfl, rfl, by cases fd <;> rfl, by cases fd <;> rfl⟩)
  · next q d fd fd' t =>
      obtain ⟨⟨rfl, haddress, hdata, hcount⟩, hanswered⟩ := Option.ite_none_right_eq_some.mp h
      cases hanswered
      refine .inl ⟨q, d, fd', t.answer, rfl, ?_, rfl⟩
      rw [← haddress, ← hdata, ← hcount]
  · obtain ⟨rfl, hended⟩ := Option.ite_none_right_eq_some.mp h
    cases hended
    exact .inr (.inr (.inl ⟨_, rfl, rfl, rfl, rfl⟩))
  · cases h
    exact .inr (.inr (.inr ⟨nofun, rfl, List.Subset.refl _⟩))
  · cases h
    exact .inr (.inr (.inr ⟨nofun, rfl, List.Subset.refl _⟩))
  · split at h
    · obtain ⟨-, h⟩ := Option.ite_none_right_eq_some.mp h
      cases h
      exact .inr (.inr (.inr ⟨nofun, rfl, List.Subset.refl _⟩))
    · cases h
  · obtain ⟨-, h⟩ := Option.ite_none_right_eq_some.mp h
    cases h
    exact .inr (.inr (.inr ⟨nofun, rfl, List.nil_subset _⟩))
  · obtain ⟨rfl, hended⟩ := Option.ite_none_right_eq_some.mp h
    cases hended
    exact .inr (.inr (.inl ⟨_, rfl, rfl, rfl, rfl⟩))
  · cases h
    exact .inr (.inr (.inr ⟨nofun, rfl, List.Subset.refl _⟩))
  · cases h

theorem fd?_answered (q : Question) (answer : Option (List UInt8)) :
    (answered d fd q answer).fd? = some fd := by
  cases q with
  | chipId =>
      cases answer with
      | none => rfl
      | some block =>
          rw [answered]
          split <;> rfl
  | _ => cases answer <;> rfl

theorem learned_answered (q : Question) (answer : Option (List UInt8)) :
    ∀ k ∈ (answered d fd q answer).learned, k ∈ (Session.asking q d fd).learned ∨
      k = (d.address, fd, q) ∧ ∃ block, answer = some block ∧ (q = .chipId → block = [0x60]) := by
  cases answer with
  | none => cases q <;> simp [answered, learned, Question.before]
  | some block =>
      cases q with
      | chipId =>
          rw [answered]
          split
          · next hblock => simp [learned, Question.before, hblock]
          · simp [learned]
      | _ => simp [answered, learned, Question.before]

/-- What has been learned in a session stands in its events. -/
theorem Run.answers {s : Session} {events : List DriverEvent}
    (hrun : Run undefined .absent events s) :
    ∀ k ∈ s.learned, ∃ block, (k.2.2 = .chipId → block = [0x60]) ∧
      .bus (.transfer k.2.1 ⟨k.1, k.2.2.data, k.2.2.count, some block⟩) ∈ events := by
  induction hrun with
  | nil => exact fun k hk => nomatch hk
  | snoc _ hstep ih =>
      intro k hk
      rcases step_cases hstep with ⟨q, d, fd, answer, rfl, rfl, rfl⟩ | ⟨_, _, -, -, -, hlearned⟩ |
        ⟨_, -, -, -, hlearned⟩ | ⟨-, -, hlearned⟩
      · rcases learned_answered q answer k hk with hk | ⟨rfl, block, rfl, hblock⟩
        · obtain ⟨block, hblock, hmem⟩ := ih k hk
          exact ⟨block, hblock, List.mem_append_left _ hmem⟩
        · exact ⟨block, hblock, List.mem_append_right _ (List.mem_singleton_self _)⟩
      · rw [hlearned] at hk
        cases hk
      · rw [hlearned] at hk
        cases hk
      · obtain ⟨block, hblock, hmem⟩ := ih k (hlearned hk)
        exact ⟨block, hblock, List.mem_append_left _ hmem⟩

end Session

def DriverEvent.handle : DriverEvent → Option (Resource.Event ℕ)
  | .bus (.opened _ (some fd)) => some (.acquire fd)
  | .bus (.transfer fd _) => some (.use fd)
  | .bus (.closed fd) => some (.release fd)
  | _ => none

namespace Session

theorem Run.uses {s t : Session} {events : List DriverEvent} (hrun : Run undefined s events t) :
    Resource.Uses (fun _ => none) s.fd?.toFinset (events.filterMap DriverEvent.handle)
      t.fd?.toFinset := by
  induction hrun with
  | nil => exact .nil
  | @snoc u v events e _ hstep ih =>
      rw [List.filterMap_append]
      refine ih.append ?_
      rcases step_cases hstep with ⟨q, d, fd, answer, rfl, rfl, rfl⟩ | ⟨path, fd, rfl, hu, hv, -⟩ |
        ⟨fd, rfl, hu, hv, -⟩ | ⟨hother, hfd, -⟩
      · rw [fd?_answered]
        exact Resource.Uses.use (by simp [fd?])
      · rw [hu, hv]
        cases fd with
        | none => exact .nil
        | some fd => exact Resource.Uses.acquire (h := fd) (by simp) (by simp)
      · rw [hu, hv]
        have hrelease := @Resource.Uses.release _ _ (fun _ => none) {fd} fd (by simp) (by simp)
        rwa [Finset.erase_singleton] at hrelease
      · have hnone : DriverEvent.handle e = none := by
          cases e with
          | bus e' => exact absurd rfl (hother e')
          | _ => rfl
        simp only [hfd, List.filterMap_cons, hnone, List.filterMap_nil]
        exact .nil

/-- What holds of every session that has come to its end: its descriptors are closed once, and
a register is written only to a sensor that has identified itself and has given all its
coefficients, at the same address and on the same descriptor. -/
structure Sound (events : List DriverEvent) : Prop where
  clean : Resource.Clean (fun _ => none) (events.filterMap DriverEvent.handle)
  identified : ∀ before after fd t, events = before ++ .bus (.transfer fd t) :: after →
    t.count = 0 → ∀ q ∈ Question.controlHumidity.before, ∃ block,
      (q = .chipId → block = [0x60]) ∧
        .bus (.transfer fd ⟨t.address, q.data, q.count, some block⟩) ∈ before

theorem Run.sound {events : List DriverEvent} (hrun : Run undefined .absent events .gone) :
    Sound events := by
  refine ⟨hrun.uses.clean, ?_⟩
  rintro before after fd t rfl hcount q hq
  obtain ⟨u, v, hbefore, hstep⟩ := hrun.exists_step
  rcases step_cases hstep with
    ⟨q', d, fd', answer, rfl, he, -⟩ | ⟨_, _, he, -⟩ | ⟨_, he, -⟩ | ⟨hne, -⟩
  · cases he
    have hq' : q ∈ q'.before := Question.before_of_count hcount ▸ hq
    exact Run.answers hbefore (d.address, fd, q) (List.mem_map_of_mem hq')
  · cases he
  · cases he
  · exact absurd rfl (hne _)

end Session

namespace Bme280

def readAllEvents (reads : List (I2cBus × ℤ)) (s : Bme280) : List DriverEvent :=
  reads.flatMap fun r => s.readEvents r.1 r.2

/-- The life of a driver that is configured, unless that throws is read any number of times,
and is destroyed. -/
def life (undefined : ℤ) (fd : Option ℕ) (kernel : I2cBus) (parameters : Json)
    (reads : List (I2cBus × ℤ)) : List DriverEvent :=
  let result := configure undefined fd kernel parameters {}
  .created (Bytes.ascii "bme280") ::
    (configureEvents parameters result ++
      ((if result.1.isSome then [] else result.2.2.readAllEvents reads) ++
        result.2.2.destroyEvents))

theorem run_readAll {s : Bme280} {session : Session} (h : s.Idle session) :
    ∀ reads : List (I2cBus × ℤ), Session.Run undefined session (s.readAllEvents reads) session
  | [] => .nil
  | r :: reads => (Session.run_read h r.1 r.2).append (run_readAll h reads)

theorem run_life (opens : Option ℕ) (kernel : I2cBus) (parameters : Json)
    (reads : List (I2cBus × ℤ)) :
    Session.Run undefined .absent (life undefined opens kernel parameters reads) .gone := by
  obtain ⟨result, hresult⟩ :
      ∃ result, configure undefined opens kernel parameters {} = result := ⟨_, rfl⟩
  obtain ⟨hthrew, hready⟩ := Session.run_configure opens kernel parameters hresult
  have hcreated : Session.step undefined .absent (.created (Bytes.ascii "bme280")) =
      some .created := rfl
  unfold life
  rw [hresult]
  refine .cons hcreated ?_
  cases hresult' : result.1 with
  | some what => exact (hthrew what hresult').append (Session.run_destroy_ended _)
  | none =>
      obtain ⟨session, hidle, hrun⟩ := hready hresult'
      exact hrun.append ((run_readAll hidle reads).append (Session.run_destroy hidle))

/-- The life of a driver, whatever its parameters are and the kernel answers: it is a session
to its end, so its calls ask the sensor in the order of the protocol, throw what the protocol
says and return what was measured; the descriptor is closed once, and nothing is written to a
sensor that has not identified itself. -/
theorem life_session (undefined : ℤ) (opens : Option ℕ) (kernel : I2cBus) (parameters : Json)
    (reads : List (I2cBus × ℤ)) :
    Session.Run undefined .absent (life undefined opens kernel parameters reads) .gone ∧
      Session.Sound (life undefined opens kernel parameters reads) :=
  ⟨run_life opens kernel parameters reads, (run_life opens kernel parameters reads).sound⟩

end Bme280

end Bossa.Drivers
