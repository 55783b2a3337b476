import Mathlib.Order.Basic
import Bossa.Data.Bytes

/-!
# The order of byte strings

`Bytes.le` compares two byte strings as `memcmp` does: the first byte in which they differ
decides, and a string comes before those it is a front part of. Strings whose fronts have
the same length are compared by their fronts first.
-/

namespace Bytes

/-- The first string does not come behind the second one. -/
def le : Bytes → Bytes → Bool
  | [], _ => true
  | _ :: _, [] => false
  | x :: a, y :: b => x.toNat < y.toNat || (x.toNat = y.toNat && le a b)

theorem le_cons_iff {x y : UInt8} {a b : Bytes} :
    le (x :: a) (y :: b) = true ↔ x.toNat < y.toNat ∨ x.toNat = y.toNat ∧ le a b = true := by
  simp [le]

theorem le_refl (a : Bytes) : le a a = true := by
  induction a with
  | nil => rfl
  | cons x a ih => exact le_cons_iff.mpr (.inr ⟨rfl, ih⟩)

theorem le_total (a b : Bytes) : le a b = true ∨ le b a = true := by
  induction a generalizing b with
  | nil => exact .inl rfl
  | cons x a ih =>
      cases b with
      | nil => exact .inr rfl
      | cons y b =>
          rw [le_cons_iff, le_cons_iff]
          rcases Nat.lt_trichotomy x.toNat y.toNat with hlt | heq | hlt
          · exact .inl (.inl hlt)
          · exact (ih b).imp (fun h => .inr ⟨heq, h⟩) fun h => .inr ⟨heq.symm, h⟩
          · exact .inr (.inl hlt)

theorem le_trans {a b c : Bytes} (hab : le a b = true) (hbc : le b c = true) :
    le a c = true := by
  induction a generalizing b c with
  | nil => rfl
  | cons x a ih =>
      cases b with
      | nil => cases hab
      | cons y b =>
          cases c with
          | nil => cases hbc
          | cons z c =>
              rw [le_cons_iff] at hab hbc ⊢
              rcases hab with hxy | ⟨hxy, hab⟩
              · exact .inl (hbc.elim hxy.trans fun h => h.1 ▸ hxy)
              · rcases hbc with hyz | ⟨hyz, hbc⟩
                · exact .inl (hxy ▸ hyz)
                · exact .inr ⟨hxy.trans hyz, ih hab hbc⟩

theorem le_antisymm {a b : Bytes} (hab : le a b = true) (hba : le b a = true) : a = b := by
  induction a generalizing b with
  | nil =>
      cases b with
      | nil => rfl
      | cons y b => cases hba
  | cons x a ih =>
      cases b with
      | nil => cases hab
      | cons y b =>
          rw [le_cons_iff] at hab hba
          rcases hab with hxy | ⟨hxy, hab⟩
          · omega
          · rcases hba with hyx | ⟨-, hba⟩
            · omega
            · rw [UInt8.toNat_inj.mp hxy, ih hab hba]

theorem le_append_left {a c d : Bytes} : le (a ++ c) (a ++ d) = le c d := by
  induction a with
  | nil => rfl
  | cons x a ih => simp [le, ih]

/-- Fronts of the same length decide when they differ. -/
theorem le_append_of_ne {a b c d : Bytes} (hlength : a.length = b.length)
    (hle : le a b = true) (hne : a ≠ b) : le (a ++ c) (b ++ d) = true := by
  induction a generalizing b with
  | nil =>
      cases b with
      | nil => exact absurd rfl hne
      | cons y b => simp at hlength
  | cons x a ih =>
      cases b with
      | nil => simp at hlength
      | cons y b =>
          rw [le_cons_iff] at hle
          rw [List.cons_append, List.cons_append, le_cons_iff]
          rcases hle with hlt | ⟨heq, htail⟩
          · exact .inl hlt
          · refine .inr ⟨heq, ih (by simpa using hlength) htail fun hab => hne ?_⟩
            rw [UInt8.toNat_inj.mp heq, hab]

end Bytes
