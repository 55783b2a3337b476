import Mathlib.Data.List.Range
import Mathlib.Data.Nat.ModEq

/-!
# Circular windows

A circular buffer keeps `size` elements in the slots `head`, `head + 1`, … of a
vector, indices taken modulo its length. `window` reads them off as a list, in
order. The lemmas say what writing a slot and moving the head do to the window,
so that a client never reasons about indices modulo the length again.
-/

namespace Circular

variable {α : Type*} {n : ℕ}

/-- The slot `offset` places behind the head. -/
def slot (hn : 0 < n) (head offset : ℕ) : Fin n :=
  ⟨(head + offset) % n, Nat.mod_lt _ hn⟩

/-- The element `offset` places behind the head. -/
def read (slots : Vector α n) (hn : 0 < n) (head offset : ℕ) : α :=
  slots[slot hn head offset]

/-- The slots with the one `offset` places behind the head overwritten. -/
def write (slots : Vector α n) (hn : 0 < n) (head offset : ℕ) (x : α) : Vector α n :=
  slots.set (slot hn head offset) x (slot hn head offset).isLt

/-- The `size` elements from the head on. -/
def window (slots : Vector α n) (hn : 0 < n) (head size : ℕ) : List α :=
  (List.range size).map (read slots hn head)

theorem slot_inj {hn : 0 < n} {head i j : ℕ} (hi : i < n) (hj : j < n)
    (h : slot hn head i = slot hn head j) : i = j := by
  have hmod : (head + i) ≡ (head + j) [MOD n] := congrArg Fin.val h
  have hij : i ≡ j [MOD n] := Nat.ModEq.add_left_cancel' head hmod
  rwa [Nat.ModEq, Nat.mod_eq_of_lt hi, Nat.mod_eq_of_lt hj] at hij

theorem slot_succ_head (hn : 0 < n) (head i : ℕ) :
    slot hn ((head + 1) % n) i = slot hn head (i + 1) := by
  apply Fin.ext
  simp only [slot, Nat.mod_add_mod]
  congr 1
  omega

@[simp] theorem read_write_self (slots : Vector α n) (hn : 0 < n) (head i : ℕ) (x : α) :
    read (write slots hn head i x) hn head i = x := by
  simp [read, write]

theorem read_write_of_ne (slots : Vector α n) (hn : 0 < n) {head i j : ℕ} (hi : i < n)
    (hj : j < n) (hne : i ≠ j) (x : α) :
    read (write slots hn head i x) hn head j = read slots hn head j := by
  have hslot : (slot hn head i : ℕ) ≠ slot hn head j := fun h =>
    hne (slot_inj hi hj (Fin.ext h))
  simp [read, write, hslot]

@[simp] theorem length_window (slots : Vector α n) (hn : 0 < n) (head size : ℕ) :
    (window slots hn head size).length = size := by
  simp [window]

theorem getElem?_window (slots : Vector α n) (hn : 0 < n) (head size i : ℕ) :
    (window slots hn head size)[i]? =
      if i < size then some (read slots hn head i) else none := by
  by_cases hi : i < size
  · simp [window, hi]
  · simp [window, hi]

theorem window_write_end (slots : Vector α n) (hn : 0 < n) (head : ℕ) {size : ℕ}
    (hsize : size < n) (x : α) :
    window (write slots hn head size x) hn head (size + 1) =
      window slots hn head size ++ [x] := by
  simp only [window, List.range_succ, List.map_append, List.map_cons, List.map_nil,
    read_write_self]
  congr 1
  apply List.map_congr_left
  intro i hi
  have hlt := List.mem_range.mp hi
  exact read_write_of_ne slots hn hsize (by omega) (by omega) x

theorem window_succ (slots : Vector α n) (hn : 0 < n) (head size : ℕ) :
    window slots hn head (size + 1) =
      read slots hn head 0 :: window slots hn ((head + 1) % n) size := by
  simp only [window, List.range_succ_eq_map, List.map_cons, List.map_map]
  congr 1
  apply List.map_congr_left
  intro i _
  simp only [Function.comp, read, slot_succ_head]

/-- Moving every element behind `offset` one slot towards the head. -/
def closeGap (slots : Vector α n) (hn : 0 < n) (head size offset : ℕ) : Vector α n :=
  (List.range' offset (size - 1 - offset)).foldl
    (fun slots i => write slots hn head i (read slots hn head (i + 1))) slots

/-- After `count` rounds the elements in the range passed so far have been
replaced by their successors, and the others are untouched. -/
theorem read_closeGap_rounds (slots : Vector α n) (hn : 0 < n) (head offset : ℕ) :
    ∀ (count : ℕ), offset + count < n → ∀ j < n,
      read ((List.range' offset count).foldl
          (fun slots i => write slots hn head i (read slots hn head (i + 1))) slots)
          hn head j =
        if offset ≤ j ∧ j < offset + count then read slots hn head (j + 1)
        else read slots hn head j
  | 0, _, j, _ => by
      rw [if_neg (by omega)]
      rfl
  | count + 1, hcount, j, hj => by
      have ih := read_closeGap_rounds slots hn head offset count (by omega)
      rw [List.range'_concat, List.foldl_append, Nat.one_mul, List.foldl_cons,
        List.foldl_nil]
      by_cases heq : offset + count = j
      · subst heq
        rw [read_write_self, ih (offset + count + 1) (by omega), if_neg (by omega),
          if_pos (by omega)]
      · rw [read_write_of_ne _ hn (by omega) hj heq, ih j hj]
        by_cases hrange : offset ≤ j ∧ j < offset + count
        · rw [if_pos hrange, if_pos (by omega)]
        · rw [if_neg hrange, if_neg (by omega)]

/-- Closing the gap at `offset` erases that element from the window. -/
theorem window_closeGap (slots : Vector α n) (hn : 0 < n) (head : ℕ) {size offset : ℕ}
    (hoffset : offset < size) (hsize : size ≤ n) :
    window (closeGap slots hn head size offset) hn head (size - 1) =
      (window slots hn head size).eraseIdx offset := by
  apply List.ext_getElem?
  intro i
  rw [List.getElem?_eraseIdx, getElem?_window, getElem?_window, getElem?_window]
  by_cases hi : i < size - 1
  · rw [if_pos hi, closeGap, read_closeGap_rounds slots hn head offset _ (by omega) i
      (by omega)]
    by_cases hlt : i < offset
    · rw [if_neg (by omega), if_pos hlt, if_pos (by omega)]
    · rw [if_pos (by omega), if_neg hlt, if_pos (by omega)]
  · rw [if_neg hi]
    by_cases hlt : i < offset
    · omega
    · rw [if_neg hlt, if_neg (by omega)]

end Circular
