import Bossa.Drivers.Bme280

/-!
# The I2C bus of Linux

`io/linux_i2c_bus.cpp`. What the kernel answers is an argument of every call: the descriptor
that `open` returns, and to a transfer the answer of an `I2cBus`. The calls return what they
ask of the kernel besides their result, so that a transfer appears exactly when `ioctl` is
called.
-/

namespace Bossa.Io

open Drivers

/-- A call of `ioctl` with `I2C_RDWR`: the bytes that are written to an address, the number
of bytes that are to be read behind them, and what was read unless the call failed. Nothing
is read by `write`. -/
structure Transfer where
  address : UInt8
  data : List UInt8
  count : ℕ
  answer : Option (List UInt8)
  deriving DecidableEq, Repr

/-- What a bus asks of the kernel, with the descriptors. -/
inductive BusEvent where
  | opened (path : Bytes) (fd : Option ℕ)
  | transfer (fd : ℕ) (t : Transfer)
  | closed (fd : ℕ)
  deriving DecidableEq, Repr

/-- The state of a `LinuxI2cBus`; the descriptor is below zero while it is not open. -/
structure LinuxI2cBus where
  fd : Option ℕ := none
  devicePath : Bytes := []
  deriving DecidableEq, Repr

namespace LinuxI2cBus

/-- Closing the descriptor, if there is one. -/
def close (s : LinuxI2cBus) : List BusEvent :=
  s.fd.toList.map .closed

/-- `LinuxI2cBus::open`, with the descriptor that `open` returns. -/
def «open» (fd : Option ℕ) (devicePath : Bytes) (s : LinuxI2cBus) :
    Bool × List BusEvent × LinuxI2cBus :=
  if devicePath = [] then (false, [], s)
  else
    let events := s.close ++ [.opened (Bytes.cString devicePath) fd]
    match fd with
    | none => (false, events, { s with fd := none })
    | some fd => (true, events, { fd := some fd, devicePath := devicePath })

/-- `LinuxI2cBus::write`. -/
def write (kernel : I2cBus) (address : UInt8) (data : List UInt8) (s : LinuxI2cBus) :
    Bool × List BusEvent :=
  match s.fd with
  | none => (false, [])
  | some fd =>
      if data = [] then (false, [])
      else
        let done := kernel.write address data
        (done, [.transfer fd ⟨address, data, 0, if done then some [] else none⟩])

/-- `LinuxI2cBus::write_read`. -/
def writeRead (kernel : I2cBus) (address : UInt8) (data : List UInt8) (count : ℕ)
    (s : LinuxI2cBus) : Option (Vector UInt8 count) × List BusEvent :=
  match s.fd with
  | none => (none, [])
  | some fd =>
      if data = [] ∨ count = 0 then (none, [])
      else
        let answer := kernel.writeRead address data count
        (answer, [.transfer fd ⟨address, data, count, answer.map Vector.toList⟩])

def seen (kernel : I2cBus) (s : LinuxI2cBus) : I2cBus where
  write := fun address data => (s.write kernel address data).1
  writeRead := fun address data count => (s.writeRead kernel address data count).1

end LinuxI2cBus

end Bossa.Io
