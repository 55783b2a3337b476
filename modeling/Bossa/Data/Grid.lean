import Mathlib.Order.Bounds.Basic
import Mathlib.Tactic.Ring
import Mathlib.Tactic.Linarith

/-!
# Slots of an arithmetic progression

`after period now next` is the first of `next`, `next + period`, … that lies
strictly behind `now`. It does not change when `next` moves one slot on towards
`now`, which is what a loop that advances slot by slot needs, and it is the
least slot behind `now` of any progression that `next` belongs to.
-/

namespace Grid

/-- The first slot from `next` on that lies strictly behind `now`. -/
def after (period now next : ℤ) : ℤ :=
  if next ≤ now then next + period * ((now - next) / period + 1) else next

theorem after_of_lt {period now next : ℤ} (h : now < next) :
    after period now next = next := by
  rw [after, if_neg (not_le.mpr h)]

theorem after_of_le {period now next : ℤ} (h : next ≤ now) :
    after period now next = next + period * ((now - next) / period + 1) := by
  rw [after, if_pos h]

theorem after_step {period now next : ℤ} (hperiod : 0 < period) (h : next ≤ now) :
    after period now (next + period) = after period now next := by
  have hdiv : (now - (next + period)) / period = (now - next) / period - 1 := by
    rw [← Int.sub_sub, Int.sub_ediv_of_dvd _ (dvd_refl period), Int.ediv_self hperiod.ne']
  rw [after_of_le h]
  by_cases hle : next + period ≤ now
  · rw [after_of_le hle, hdiv]
    ring
  · have hzero : (now - next) / period = 0 :=
      Int.ediv_eq_zero_of_lt (by omega) (by omega)
    rw [after_of_lt (not_le.mp hle), hzero]
    ring

theorem lt_after {period : ℤ} (hperiod : 0 < period) (now next : ℤ) :
    now < after period now next := by
  by_cases h : next ≤ now
  · have hlt := Int.lt_ediv_add_one_mul_self (now - next) hperiod
    rw [after_of_le h, mul_comm]
    omega
  · rw [after_of_lt (not_le.mp h)]
    exact not_le.mp h

theorem le_after {period : ℤ} (hperiod : 0 < period) (now next : ℤ) :
    next ≤ after period now next := by
  by_cases h : next ≤ now
  · exact h.trans (lt_after hperiod now next).le
  · rw [after_of_lt (not_le.mp h)]

/-- The slots of a progression that lie strictly behind `now`. -/
def slotsAfter (origin period now : ℤ) : Set ℤ :=
  {t | (∃ k : ℕ, t = origin + k * period) ∧ now < t}

/-- From a slot that is not behind `now`, the first slot behind `now` is the
least one of the whole progression. -/
theorem isLeast_after {origin period now next : ℤ} (hperiod : 0 < period)
    (hslot : ∃ k : ℕ, next = origin + k * period) (h : next ≤ now) :
    IsLeast (slotsAfter origin period now) (after period now next) := by
  obtain ⟨k, rfl⟩ := hslot
  have hquot : 0 ≤ (now - (origin + k * period)) / period :=
    Int.ediv_nonneg (by omega) hperiod.le
  refine ⟨⟨⟨k + ((now - (origin + k * period)) / period).toNat + 1, ?_⟩,
    lt_after hperiod _ _⟩, ?_⟩
  · rw [after_of_le h]
    push_cast
    rw [Int.toNat_of_nonneg hquot]
    ring
  · rintro t ⟨⟨j, rfl⟩, hj⟩
    have hmul := Int.ediv_mul_le (now - (origin + k * period)) hperiod.ne'
    have hstep : (now - (origin + k * period)) / period < (j : ℤ) - k := by
      rw [Int.ediv_lt_iff_lt_mul hperiod]
      linarith
    rw [after_of_le h]
    have hle : ((now - (origin + k * period)) / period + 1) ≤ (j : ℤ) - k := by omega
    have hmono := mul_le_mul_of_nonneg_left hle hperiod.le
    linarith

theorem isLeast_of_lt {origin period earlier now next : ℤ} (hle : earlier ≤ now)
    (h : IsLeast (slotsAfter origin period earlier) next) (hlt : now < next) :
    IsLeast (slotsAfter origin period now) next :=
  ⟨⟨h.1.1, hlt⟩, fun _ ht => h.2 ⟨ht.1, hle.trans_lt ht.2⟩⟩

end Grid
