import Bossa.Data.Bytes

/-!
# Cutting UTF-8 text

A text that is cut off behind a number of bytes stays valid UTF-8 exactly when the cut
falls between two characters, that is, when the first byte that is cut off is not a
continuation byte.
-/

namespace Bytes

def isContinuation (c : UInt8) : Bool := 0x80 ≤ c && c ≤ 0xBF

/-- Cutting the text behind `n` bytes cuts no character in two. -/
def CutsBetween (n : ℕ) (b : Bytes) : Prop := ∀ c ∈ b[n]?, isContinuation c = false

instance (n : ℕ) (b : Bytes) : Decidable (CutsBetween n b) :=
  match h : b[n]? with
  | none => .isTrue fun c hc => by
      rw [h] at hc
      cases hc
  | some c => decidable_of_iff (isContinuation c = false) (by simp [CutsBetween, h])

theorem cutsBetween_of_length_le {n : ℕ} {b : Bytes} (h : b.length ≤ n) : CutsBetween n b := by
  rw [CutsBetween, List.getElem?_eq_none h]
  exact fun _ hc => nomatch hc

theorem foldl_decode_reject (b : Bytes) : b.foldl Utf8State.decode .reject = .reject := by
  induction b with
  | nil => rfl
  | cons c b ih => exact ih

theorem decode_accept_of_isContinuation {c : UInt8} (h : isContinuation c = true) :
    Utf8State.decode .accept c = .reject := by
  simp only [isContinuation, Bool.and_eq_true, decide_eq_true_eq, UInt8.le_iff_toNat_le] at h
  have hlow : ¬ c ≤ 0x7F := by
    rw [UInt8.le_iff_toNat_le]
    exact Nat.not_le_of_lt h.1
  have hhigh : c ≤ 0xC1 := by
    rw [UInt8.le_iff_toNat_le]
    exact h.2.trans (by decide)
  simp [Utf8State.decode, hlow, hhigh]

theorem isContinuation_of_expect {low high c : UInt8} {next : Utf8State} (hlow : 0x80 ≤ low)
    (hhigh : high ≤ 0xBF) (h : Utf8State.expect low high next c ≠ .reject) :
    isContinuation c = true := by
  unfold Utf8State.expect at h
  split at h
  · next hc =>
      simp only [isContinuation, Bool.and_eq_true, decide_eq_true_eq]
      exact ⟨UInt8.le_trans hlow hc.1, UInt8.le_trans hc.2 hhigh⟩
  · exact absurd rfl h

theorem isContinuation_of_decode {state : Utf8State} {c : UInt8} (hstate : state ≠ .accept)
    (h : state.decode c ≠ .reject) : isContinuation c = true := by
  cases state with
  | accept => exact absurd rfl hstate
  | reject => exact absurd rfl h
  | _ => exact isContinuation_of_expect (by decide) (by decide) h

/-- A valid text stays valid when it is cut between two characters, and only then. -/
theorem validUtf8_take_iff {b : Bytes} (h : validUtf8 b = true) (n : ℕ) :
    validUtf8 (b.take n) = true ↔ CutsBetween n b := by
  simp only [validUtf8, decide_eq_true_eq] at h ⊢
  rw [← List.take_append_drop n b, List.foldl_append] at h
  generalize (b.take n).foldl Utf8State.decode .accept = state at h
  cases hrest : b.drop n with
  | nil =>
      rw [hrest] at h
      exact iff_of_true h (cutsBetween_of_length_le (List.drop_eq_nil_iff.mp hrest))
  | cons c rest =>
      have hnext : b[n]? = some c := by
        rw [← List.head?_drop, hrest, List.head?_cons]
      have hdecode : state.decode c ≠ .reject := by
        intro hreject
        rw [hrest, List.foldl_cons, hreject, foldl_decode_reject] at h
        cases h
      rw [CutsBetween, hnext]
      constructor
      · rintro rfl c' ⟨⟩
        exact Bool.eq_false_iff.mpr fun hc => hdecode (decode_accept_of_isContinuation hc)
      · intro hcut
        by_contra hstate
        exact Bool.eq_false_iff.mp (hcut c rfl) (isContinuation_of_decode hstate hdecode)

end Bytes
