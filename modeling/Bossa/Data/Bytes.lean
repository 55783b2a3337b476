import Mathlib.Data.List.TakeWhile
import Mathlib.Data.Nat.Digits.Defs

/-!
# Byte strings

A `std::string`, a `char` array and a text column all hold bytes, so text is a
list of bytes throughout. `ascii` writes a literal, `decimal` prints a number,
`cString` reads a byte array the way C does, up to the first NUL, and
`validUtf8` runs the usual byte automaton of a UTF-8 decoder. A fixed `char`
array is a `CharArray`: the bytes copied in front of the terminator, with the
bound on their number as a field.
-/

abbrev Bytes := List UInt8

namespace Bytes

def ascii (s : String) : Bytes := s.toList.map Char.toUInt8

def decimal (n : ℕ) : Bytes := (Nat.toDigits 10 n).map Char.toUInt8

/-- The decimal digits of an integer, with a leading minus sign below zero. -/
def decimalInt : ℤ → Bytes
  | .ofNat n => decimal n
  | .negSucc n => 45 :: decimal (n + 1)

theorem toUInt8_toNat_of_isDigit {c : Char} (h : c.isDigit) :
    c.toUInt8.toNat = c.toNat := by
  simp only [Char.isDigit, Bool.and_eq_true, decide_eq_true_eq] at h
  have h2 : c.val.toNat ≤ 57 := by
    have := UInt32.le_iff_toNat_le.mp h.2
    simpa using this
  simp only [Char.toUInt8, Char.toNat, UInt32.toNat_toUInt8]
  omega

theorem toUInt8_injOn_digits {c d : Char} (hc : c.isDigit) (hd : d.isDigit)
    (h : c.toUInt8 = d.toUInt8) : c = d := by
  have hnat : c.toNat = d.toNat := by
    rw [← toUInt8_toNat_of_isDigit hc, ← toUInt8_toNat_of_isDigit hd, h]
  exact Char.toNat_inj.mp hnat

theorem map_toUInt8_inj_of_isDigit :
    ∀ {l m : List Char}, (∀ c ∈ l, c.isDigit) → (∀ c ∈ m, c.isDigit) →
      l.map Char.toUInt8 = m.map Char.toUInt8 → l = m
  | [], [], _, _, _ => rfl
  | [], _ :: _, _, _, h => by simp at h
  | _ :: _, [], _, _, h => by simp at h
  | c :: l, d :: m, hl, hm, h => by
      simp only [List.map_cons, List.cons.injEq] at h
      have hcd := toUInt8_injOn_digits (hl c (by simp)) (hm d (by simp)) h.1
      have ih := map_toUInt8_inj_of_isDigit
        (fun a ha => hl a (by simp [ha])) (fun a ha => hm a (by simp [ha])) h.2
      rw [hcd, ih]

theorem decimal_injective : Function.Injective decimal := by
  intro m n h
  have hdigits : Nat.toDigits 10 m = Nat.toDigits 10 n :=
    map_toUInt8_inj_of_isDigit
      (fun _ hc => Nat.isDigit_of_mem_toDigits (by omega) (by omega) hc)
      (fun _ hc => Nat.isDigit_of_mem_toDigits (by omega) (by omega) hc) h
  rw [← Nat.ofDigitChars_ten_toDigits (n := m), hdigits,
    Nat.ofDigitChars_ten_toDigits]

theorem decimal_ne_minus_cons (n : ℕ) (l : Bytes) : decimal n ≠ 45 :: l := by
  intro h
  obtain ⟨c, cs, hcs⟩ := List.exists_cons_of_ne_nil
    (Nat.toDigits_ne_nil (n := n) (b := 10))
  have hdigit : c.isDigit :=
    Nat.isDigit_of_mem_toDigits (b := 10) (n := n) (by omega) (by omega)
      (by simp [hcs])
  rw [decimal, hcs, List.map_cons, List.cons.injEq] at h
  have hnat := toUInt8_toNat_of_isDigit hdigit
  rw [h.1] at hnat
  simp only [Char.isDigit, Bool.and_eq_true, decide_eq_true_eq] at hdigit
  have hle := UInt32.le_iff_toNat_le.mp hdigit.1
  have h48 : 48 ≤ c.toNat := by simpa using hle
  have h45 : (45 : UInt8).toNat = 45 := rfl
  omega

theorem decimalInt_injective : Function.Injective decimalInt := by
  intro a b h
  cases a with
  | ofNat m =>
      cases b with
      | ofNat n => rw [decimal_injective h]
      | negSucc n => exact absurd h (decimal_ne_minus_cons m _)
  | negSucc m =>
      cases b with
      | ofNat n => exact absurd h.symm (decimal_ne_minus_cons n _)
      | negSucc n =>
          simp only [decimalInt, List.cons.injEq, true_and] at h
          have hsucc := decimal_injective h
          rw [show m = n by omega]

def cString (b : Bytes) : Bytes := b.takeWhile (· ≠ 0)

theorem cString_length_le (b : Bytes) : (cString b).length ≤ b.length :=
  (List.takeWhile_prefix _).length_le

theorem cString_ne_zero {b : Bytes} {c : UInt8} (h : c ∈ cString b) : c ≠ 0 := by
  simpa using List.mem_takeWhile_imp h

theorem cString_eq_self {b : Bytes} (h : ∀ c ∈ b, c ≠ 0) : cString b = b :=
  List.takeWhile_eq_self_iff.mpr fun c hc => by simpa using h c hc

@[simp] theorem cString_cString (b : Bytes) : cString (cString b) = cString b :=
  cString_eq_self fun _ hc => cString_ne_zero hc

/-- The states of a UTF-8 decoder between two bytes: at a character boundary,
with one to three continuation bytes to come, with a restricted second byte to
come after one of the leads `E0`, `ED`, `F0` and `F4`, or failed. -/
inductive Utf8State where
  | accept
  | need1
  | need2
  | need3
  | afterE0
  | afterED
  | afterF0
  | afterF4
  | reject
  deriving DecidableEq, Repr

/-- The state after a byte that is expected to lie between two bounds. -/
def Utf8State.expect (low high : UInt8) (next : Utf8State) (byte : UInt8) :
    Utf8State :=
  if low ≤ byte ∧ byte ≤ high then next else .reject

/-- One step of the decoder. -/
def Utf8State.decode (state : Utf8State) (byte : UInt8) : Utf8State :=
  match state with
  | .accept =>
      if byte ≤ 0x7F then .accept
      else if byte ≤ 0xC1 then .reject
      else if byte ≤ 0xDF then .need1
      else if byte = 0xE0 then .afterE0
      else if byte = 0xED then .afterED
      else if byte ≤ 0xEF then .need2
      else if byte = 0xF0 then .afterF0
      else if byte ≤ 0xF3 then .need3
      else if byte = 0xF4 then .afterF4
      else .reject
  | .need1 => expect 0x80 0xBF .accept byte
  | .need2 => expect 0x80 0xBF .need1 byte
  | .need3 => expect 0x80 0xBF .need2 byte
  | .afterE0 => expect 0xA0 0xBF .need1 byte
  | .afterED => expect 0x80 0x9F .need1 byte
  | .afterF0 => expect 0x90 0xBF .need2 byte
  | .afterF4 => expect 0x80 0x8F .need2 byte
  | .reject => .reject

/-- A byte string is valid UTF-8 when the decoder ends at a character
boundary. -/
def validUtf8 (b : Bytes) : Bool := b.foldl Utf8State.decode .accept = .accept

theorem foldl_decode_of_ascii {b : Bytes} (h : ∀ c ∈ b, c ≤ 0x7F) :
    b.foldl Utf8State.decode .accept = .accept := by
  induction b with
  | nil => rfl
  | cons c b ih =>
      have hc : Utf8State.decode .accept c = .accept := by
        simp [Utf8State.decode, h c (by simp)]
      rw [List.foldl_cons, hc]
      exact ih fun d hd => h d (by simp [hd])

theorem validUtf8_of_ascii {b : Bytes} (h : ∀ c ∈ b, c ≤ 0x7F) :
    validUtf8 b = true := by
  simp [validUtf8, foldl_decode_of_ascii h]

end Bytes

/-- A `char` array of `maxLength + 1` bytes that holds a terminated string: the
bytes in front of the terminator. -/
structure CharArray (maxLength : ℕ) where
  bytes : Bytes
  length_le : bytes.length ≤ maxLength
  deriving DecidableEq, Repr

namespace CharArray

variable {maxLength : ℕ}

instance : Inhabited (CharArray maxLength) := ⟨⟨[], by simp⟩⟩

def cString (a : CharArray maxLength) : Bytes := Bytes.cString a.bytes

/-- As much of a byte string as fits in front of the terminator. -/
def ofPrefix (maxLength : ℕ) (source : Bytes) : CharArray maxLength :=
  ⟨source.take maxLength, by simp⟩

theorem cString_length_le (a : CharArray maxLength) :
    a.cString.length ≤ maxLength :=
  (Bytes.cString_length_le a.bytes).trans a.length_le

@[simp] theorem cString_ofPrefix_cString (a : CharArray maxLength) :
    (ofPrefix maxLength (Bytes.cString a.cString)).cString = a.cString := by
  have hcopy : (ofPrefix maxLength (Bytes.cString a.cString)).bytes = a.cString := by
    simp only [ofPrefix, cString, Bytes.cString_cString]
    exact List.take_of_length_le a.cString_length_le
  rw [cString, hcopy, cString, Bytes.cString_cString]

end CharArray
