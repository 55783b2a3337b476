import Bossa.Data.Json
import Bossa.Drivers.Bme280

/-!
# The parameters of the BME280 driver

The part of `Bme280Driver::configure` in `drivers/bme280/bme280_driver.cpp` that reads the
parameters of a channel, with what it throws: its own texts, those of the JSON library for a
value of another type, and that of `std::stoul`. The address is cut down to a byte.
-/

namespace Bossa.Drivers

/-- The name of the type of a value in the messages of the JSON library. -/
def typeName : Json → String
  | .null => "null"
  | .bool _ => "boolean"
  | .num _ => "number"
  | .str _ => "string"
  | .arr _ => "array"
  | .obj _ => "object"

/-- The message of `type_error.302`. -/
def typeError (expected : String) (j : Json) : Bytes :=
  Bytes.ascii ("[json.exception.type_error.302] type must be " ++ expected ++ ", but is " ++
    typeName j)

/-- `get<std::string>()`. -/
def getString : Json → Except Bytes Bytes
  | .str s => .ok s
  | j => .error (typeError "string" j)

/-- `get<int>()`: a fraction is cut off. What a number becomes that is no `int` is not
defined. -/
def getInt (undefined : ℤ) : Json → Except Bytes ℤ
  | .num (.finite q) =>
      let whole := q.num.tdiv q.den
      .ok (if -2 ^ 31 ≤ whole ∧ whole < 2 ^ 31 then whole else undefined)
  | .num _ => .ok undefined
  | .bool b => .ok (if b then 1 else 0)
  | j => .error (typeError "number" j)

def digit? (c : UInt8) : Option ℕ :=
  if 48 ≤ c ∧ c ≤ 57 then some (c.toNat - 48)
  else if 65 ≤ c ∧ c ≤ 90 then some (c.toNat - 55)
  else if 97 ≤ c ∧ c ≤ 122 then some (c.toNat - 87)
  else none

def leadingDigits (base : ℕ) : Bytes → List ℕ
  | [] => []
  | c :: text =>
      match digit? c with
      | none => []
      | some d => if d < base then d :: leadingDigits base text else []

/-- The base that the front of a text stands for, and the text behind it. -/
def detectBase : Bytes → ℕ × Bytes
  | 48 :: x :: c :: text =>
      if (x = 120 ∨ x = 88) ∧ (leadingDigits 16 [c]) ≠ [] then (16, c :: text)
      else (8, 48 :: x :: c :: text)
  | 48 :: text => (8, 48 :: text)
  | text => (10, text)

/-- The sign in front of a text, and the text behind it. -/
def detectSign : Bytes → Bool × Bytes
  | 45 :: text => (true, text)
  | 43 :: text => (false, text)
  | text => (false, text)

def isSpace (c : UInt8) : Bool := c = 32 || (9 ≤ c && c ≤ 13)

/-- `std::stoul(text, nullptr, 0)`: blanks, a sign and the longest numeral, whatever is behind
it; a negated number is taken modulo `2 ^ 64`. -/
def stoul (text : Bytes) : Except Bytes ℕ :=
  let (negative, text) := detectSign ((Bytes.cString text).dropWhile isSpace)
  let (base, text) := detectBase text
  match leadingDigits base text with
  | [] => .error (Bytes.ascii "stoul")
  | digits =>
      let value := Nat.ofDigits base digits.reverse
      if 2 ^ 64 ≤ value then .error (Bytes.ascii "stoul")
      else .ok (if negative then (2 ^ 64 - value) % 2 ^ 64 else value)

/-- `parameters[name]`, if it is there. -/
def parameter? (parameters : Json) (name : String) : Option Json :=
  match parameters with
  | .obj members => Json.member? (Bytes.ascii name) members
  | _ => none

namespace Bme280Driver

/-- The address that the parameter stands for, cut down to a byte. -/
def readAddress (undefined : ℤ) : Json → Except Bytes UInt8
  | .str text => do
      let value ← stoul text
      pure (UInt8.ofNat value)
  | j => do
      let value ← getInt undefined j
      pure (UInt8.ofNat (value % 256).toNat)

/-- A parameter with the id of a channel, which need not be there. -/
def readChannelId (parameters : Json) (name : String) (default : Bytes) : Except Bytes Bytes :=
  match parameter? parameters name with
  | none => .ok default
  | some j => getString j

/-- `Bme280Driver::configure` up to the bus: the path of the bus, unless it throws, and the
driver, which keeps what was read before. -/
def readParameters (undefined : ℤ) (parameters : Json) (d : Bme280Driver) :
    Except Bytes Bytes × Bme280Driver :=
  match parameter? parameters "bus" with
  | some (.str path) =>
      match parameter? parameters "address" with
      | none => (.error (Bytes.ascii "bme280: missing parameter 'address'"), d)
      | some j =>
          match readAddress undefined j with
          | .error what => (.error what, d)
          | .ok address =>
              let d := { d with address := address }
              match readChannelId parameters "temperature_channel_id"
                  d.temperatureChannelId with
              | .error what => (.error what, d)
              | .ok temperature =>
                  let d := { d with temperatureChannelId := temperature }
                  match readChannelId parameters "humidity_channel_id" d.humidityChannelId with
                  | .error what => (.error what, d)
                  | .ok humidity => (.ok path, { d with humidityChannelId := humidity })
  | _ => (.error (Bytes.ascii "bme280: missing string parameter 'bus'"), d)

end Bme280Driver

end Bossa.Drivers
