import Bossa.Core.Abort
import Mathlib.Algebra.Order.Ring.Abs
import Mathlib.Tactic.Linarith

/-!
# Signed arithmetic of 32 bits

What becomes of the exact result of an operation is a rule, and a formula is written with
the rule as a parameter. `wrap32` reduces the result modulo `2 ^ 32`, `checked32` aborts
when it does not fit. As long as everything fits the two compute the same.
-/

namespace Bossa

/-- The range of a signed 32-bit integer. -/
def Fits32 (a : ℤ) : Prop := -2 ^ 31 ≤ a ∧ a < 2 ^ 31

instance (a : ℤ) : Decidable (Fits32 a) := inferInstanceAs (Decidable (_ ∧ _))

/-- What becomes of the exact result of an operation. -/
abbrev Rule32 := ℤ → Except Abort ℤ

/-- Reduction modulo `2 ^ 32`. -/
def wrap32 : Rule32 := fun a => .ok (a.bmod (2 ^ 32))

def checked32 : Rule32 := fun a => if Fits32 a then .ok a else .error .overflow

theorem checked32_eq_ok_iff {a b : ℤ} : checked32 a = .ok b ↔ Fits32 a ∧ a = b := by
  unfold checked32
  split
  · next h => simp [h]
  · next h => simp [h]

theorem checked32_bind_eq_ok_iff {β : Type} {a : ℤ} {f : ℤ → Except Abort β} {b : β} :
    (checked32 a >>= f) = .ok b ↔ Fits32 a ∧ f a = .ok b := by
  simp [Abort.bind_eq_ok_iff, checked32_eq_ok_iff, and_assoc]

/-! ### Residues -/

/-- The representative modulo `2 ^ 32` in the signed range. -/
def signed32 (a : ℤ) : ℤ := a.bmod (2 ^ 32)

theorem wrap32_eq (a : ℤ) : wrap32 a = .ok (signed32 a) := rfl

theorem wrap32_bind {β : Type} (a : ℤ) (f : ℤ → Except Abort β) :
    (wrap32 a >>= f) = f (signed32 a) := rfl

theorem fits32_signed32 (a : ℤ) : Fits32 (signed32 a) :=
  ⟨Int.le_bmod (by decide), Int.bmod_lt (by decide)⟩

theorem signed32_of_fits {a : ℤ} (h : Fits32 a) : signed32 a = a :=
  Int.bmod_eq_of_le (le_trans (by decide) h.1) (lt_of_lt_of_le h.2 (by decide))

theorem wrap32_of_fits {a : ℤ} (h : Fits32 a) : wrap32 a = .ok a := by
  rw [wrap32_eq, signed32_of_fits h]

/-! The residue of a sum, a difference or a product depends on the residues only. -/

@[simp]
theorem signed32_add_left (a b : ℤ) : signed32 (signed32 a + b) = signed32 (a + b) :=
  Int.bmod_add_bmod

@[simp]
theorem signed32_sub_left (a b : ℤ) : signed32 (signed32 a - b) = signed32 (a - b) :=
  Int.bmod_sub_bmod

@[simp]
theorem signed32_sub_right (a b : ℤ) : signed32 (a - signed32 b) = signed32 (a - b) :=
  Int.sub_bmod_bmod

@[simp]
theorem signed32_mul_left (a b : ℤ) : signed32 (signed32 a * b) = signed32 (a * b) :=
  Int.bmod_mul_bmod

@[simp]
theorem signed32_mul_right (a b : ℤ) : signed32 (a * signed32 b) = signed32 (a * b) :=
  Int.mul_bmod_bmod

theorem fits32_of_abs_le {a b : ℤ} (h : |a| ≤ b) (hb : b < 2 ^ 31) : Fits32 a := by
  have hab := abs_le.mp h
  constructor <;> omega

theorem shiftRight_eq_div (a : ℤ) (n : ℕ) : a >>> n = a / 2 ^ n := by
  rw [Int.shiftRight_eq_div_pow]
  push_cast
  rfl

theorem shiftRight_bounds {a low high : ℤ} {n : ℕ} (hlow : low * 2 ^ n ≤ a)
    (hhigh : a < (high + 1) * 2 ^ n) : low ≤ a >>> n ∧ a >>> n ≤ high := by
  have hpos : (0 : ℤ) < 2 ^ n := pow_pos (by decide) n
  rw [shiftRight_eq_div]
  exact ⟨(Int.le_ediv_iff_mul_le hpos).mpr hlow,
    Int.lt_add_one_iff.mp ((Int.ediv_lt_iff_lt_mul hpos).mpr hhigh)⟩

theorem Fits32.shiftRight {a : ℤ} (h : Fits32 a) (n : ℕ) : Fits32 (a >>> n) := by
  have hpos : (1 : ℤ) ≤ 2 ^ n := one_le_pow₀ (by decide)
  have hlow : (-2 ^ 31 : ℤ) * 2 ^ n ≤ a := by nlinarith [h.1]
  have hhigh : a < (2 ^ 31 - 1 + 1) * 2 ^ n := by nlinarith [h.2]
  have hrange := shiftRight_bounds hlow hhigh
  exact ⟨hrange.1, by omega⟩

theorem Fits32.ediv {a : ℤ} (h : Fits32 a) (n : ℕ) : Fits32 (a / 2 ^ n) :=
  shiftRight_eq_div a n ▸ h.shiftRight n

@[simp]
theorem signed32_shiftRight (a : ℤ) (n : ℕ) :
    signed32 (signed32 a >>> n) = signed32 a >>> n :=
  signed32_of_fits ((fits32_signed32 a).shiftRight n)

end Bossa
