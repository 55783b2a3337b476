import Mathlib.Data.Nat.Digits.Lemmas
import Bossa.Data.ByteOrder
import Bossa.Data.Civil

/-!
# Texts of times in order

The text of a time has fields of fixed width, the more significant ones in front, so that
the order of the texts is the order of the times as long as the year has four digits.
-/

namespace Bytes

theorem decimal_snoc {n d : ℕ} (hn : 0 < n) (hd : d < 10) :
    decimal (10 * n + d) = decimal n ++ decimal d := by
  rw [decimal, ← Nat.toDigits_append_toDigits (by decide) hn hd, List.map_append]
  rfl

theorem decimal_of_lt_ten {d : ℕ} (hd : d < 10) : decimal d = [(48 + d).toUInt8] := by
  rw [decimal, Nat.toDigits_of_lt_base hd]
  interval_cases d <;> rfl

end Bytes

namespace Civil

theorem le_twoDigits {m n : ℤ} (hm0 : 0 ≤ m) (hn1 : n < 100) (h : m ≤ n) :
    Bytes.le (twoDigits m) (twoDigits n) = true := by
  have hdigit : ∀ a : ℤ, 0 ≤ a → a < 10 →
      ((48 + a).toNat.toUInt8.toNat : ℤ) = 48 + a := by
    intro a ha0 ha1
    simp only [Nat.toUInt8, UInt8.toNat_ofNat']
    omega
  have htens := hdigit (m / 10) (by omega) (by omega)
  have htens' := hdigit (n / 10) (by omega) (by omega)
  have hunits := hdigit (m % 10) (by omega) (by omega)
  have hunits' := hdigit (n % 10) (by omega) (by omega)
  simp only [twoDigits, Bytes.le_cons_iff, Bytes.le_refl, and_true]
  omega

theorem decimalInt_year {y : ℤ} (h0 : 1000 ≤ y) (h1 : y < 10000) :
    Bytes.decimalInt y = twoDigits (y / 100) ++ twoDigits (y % 100) := by
  obtain ⟨n, rfl⟩ := Int.eq_ofNat_of_zero_le (by omega : 0 ≤ y)
  have hn : n = 10 * (10 * (10 * (n / 1000) + n / 100 % 10) + n / 10 % 10) + n % 10 := by
    omega
  change Bytes.decimal n = _
  conv_lhs => rw [hn]
  rw [Bytes.decimal_snoc (by omega) (by omega), Bytes.decimal_snoc (by omega) (by omega),
    Bytes.decimal_snoc (by omega) (by omega), Bytes.decimal_of_lt_ten (by omega),
    Bytes.decimal_of_lt_ten (by omega), Bytes.decimal_of_lt_ten (by omega),
    Bytes.decimal_of_lt_ten (by omega)]
  have hdigits : (48 + (n : ℤ) / 100 / 10).toNat = 48 + n / 1000 ∧
      (48 + (n : ℤ) / 100 % 10).toNat = 48 + n / 100 % 10 ∧
      (48 + (n : ℤ) % 100 / 10).toNat = 48 + n / 10 % 10 ∧
      (48 + (n : ℤ) % 100 % 10).toNat = 48 + n % 10 := by
    omega
  simp only [twoDigits, hdigits.1, hdigits.2.1, hdigits.2.2.1, hdigits.2.2.2]
  rfl

theorem le_decimalInt_year {y z : ℤ} (hy0 : 1000 ≤ y) (hz1 : z < 10000) (h : y < z) :
    Bytes.le (Bytes.decimalInt y) (Bytes.decimalInt z) = true := by
  rw [decimalInt_year hy0 (by omega), decimalInt_year (by omega) hz1]
  by_cases hcentury : y / 100 = z / 100
  · rw [hcentury, Bytes.le_append_left]
    exact le_twoDigits (by omega) (by omega) (by omega)
  · refine Bytes.le_append_of_ne rfl (le_twoDigits (by omega) (by omega) (by omega)) ?_
    exact fun heq => hcentury (twoDigits_inj (by omega) (by omega) (by omega) (by omega) heq)

/-- The first time is earlier than the second one, field by field. -/
def Time.Before (a b : Time) : Prop :=
  a.year < b.year ∨ a.year = b.year ∧
    (a.month < b.month ∨ a.month = b.month ∧
      (a.day < b.day ∨ a.day = b.day ∧
        (a.hour < b.hour ∨ a.hour = b.hour ∧
          (a.minute < b.minute ∨ a.minute = b.minute ∧ a.second < b.second))))

theorem yearOfEra_mono {d e : ℤ} (hd : 0 ≤ d) (hde : d ≤ e) (he : e < 146097) :
    yearOfEra d ≤ yearOfEra e := by
  simp only [yearOfEra, centuryOfEra]
  omega

theorem monthOfYear_mono {d e : ℤ} (hde : d ≤ e) : monthOfYear d ≤ monthOfYear e := by
  unfold monthOfYear
  omega

def marchYear (day : ℤ) : ℤ := yearOfEra (day % 146097) + day / 146097 * 400

def dayOfMarchYear (day : ℤ) : ℤ :=
  day % 146097 - daysBeforeYear (yearOfEra (day % 146097))

theorem dayOfMarchYear_bounds (d : ℤ) : 0 ≤ dayOfMarchYear d ∧ dayOfMarchYear d ≤ 365 :=
  dayOfYear_bounds (by omega) (by omega)

theorem marchYear_lt_or {d e : ℤ} (h : d < e) :
    marchYear d < marchYear e ∨
      marchYear d = marchYear e ∧ dayOfMarchYear d < dayOfMarchYear e := by
  obtain ⟨hd0, hd1⟩ := yearOfEra_bounds (d := d % 146097) (by omega) (by omega)
  obtain ⟨he0, he1⟩ := yearOfEra_bounds (d := e % 146097) (by omega) (by omega)
  unfold marchYear dayOfMarchYear
  by_cases hera : d / 146097 = e / 146097
  · have hmono := @yearOfEra_mono (d % 146097) (e % 146097) (by omega) (by omega) (by omega)
    by_cases hyear : yearOfEra (d % 146097) = yearOfEra (e % 146097)
    · exact .inr ⟨by rw [hyear, hera], by rw [hyear]; omega⟩
    · exact .inl (by omega)
  · exact .inl (by omega)

/-- The broken-down times are in the order of their seconds. -/
theorem before_of_lt {s t : ℤ} (h : s < t) : (ofSeconds s).Before (ofSeconds t) := by
  by_cases hdays : s / 86400 = t / 86400
  · have hrest : s % 86400 < t % 86400 := by omega
    simp only [Time.Before, ofSeconds, hdays, lt_self_iff_false, false_or, true_and]
    omega
  · have hdate := @marchYear_lt_or (s / 86400 + 719468) (t / 86400 + 719468) (by omega)
    obtain ⟨hs0, hs1⟩ := dayOfMarchYear_bounds (s / 86400 + 719468)
    obtain ⟨ht0, ht1⟩ := dayOfMarchYear_bounds (t / 86400 + 719468)
    have hms := monthOfYear_bounds hs0 hs1
    have hmt := monthOfYear_bounds ht0 ht1
    simp only [Time.Before, ofSeconds]
    simp only [marchYear] at hdate
    simp only [dayOfMarchYear] at hdate hms hmt
    rcases hdate with hyear | ⟨hyear, hday⟩
    · split <;> split <;> omega
    · have hmonth := monthOfYear_mono hday.le
      rw [hyear]
      by_cases heq : monthOfYear ((s / 86400 + 719468) % 146097 -
          daysBeforeYear (yearOfEra ((s / 86400 + 719468) % 146097))) =
        monthOfYear ((t / 86400 + 719468) % 146097 -
          daysBeforeYear (yearOfEra ((t / 86400 + 719468) % 146097)))
      · rw [heq]
        omega
      · split <;> split <;> omega

theorem le_field {c : UInt8} {m n : ℤ} (hm0 : 0 ≤ m) (hn1 : n < 100) (h : m < n)
    (rest rest' : Bytes) :
    Bytes.le (c :: twoDigits m ++ rest) (c :: twoDigits n ++ rest') = true := by
  refine Bytes.le_append_of_ne rfl (Bytes.le_cons_iff.mpr (.inr ⟨rfl, ?_⟩)) fun heq => ?_
  · exact le_twoDigits hm0 hn1 h.le
  · have := twoDigits_inj hm0 (by omega) (by omega) hn1 (List.cons.inj heq).2
    omega

theorem length_decimalInt_year {y : ℤ} (h0 : 1000 ≤ y) (h1 : y < 10000) :
    (Bytes.decimalInt y).length = 4 := by
  rw [decimalInt_year h0 h1]
  rfl

/-- The seconds of the years of four digits. -/
def FourDigitYear (s : ℤ) : Prop := -30610224000 ≤ s ∧ s < 253402300800

theorem FourDigitYear.year_bounds {s : ℤ} (h : FourDigitYear s) :
    1000 ≤ (ofSeconds s).year ∧ (ofSeconds s).year < 10000 := by
  constructor
  · rcases h.1.lt_or_eq with hlt | heq
    · have hbefore := before_of_lt hlt
      have hfirst : (ofSeconds (-30610224000)).year = 1000 := by decide
      simp only [Time.Before] at hbefore
      omega
    · rw [← heq]
      decide
  · have hbefore := before_of_lt h.2
    have hlast : (ofSeconds 253402300800).year = 10000 ∧
        (ofSeconds 253402300800).month = 1 ∧ (ofSeconds 253402300800).day = 1 ∧
        (ofSeconds 253402300800).hour = 0 ∧ (ofSeconds 253402300800).minute = 0 ∧
        (ofSeconds 253402300800).second = 0 := by decide
    obtain ⟨hmo, hda, hho, hmi, hse⟩ := ofSeconds_bounds s
    simp only [Time.Before] at hbefore
    omega

theorem le_text_of_lt {s t : ℤ} (hs : FourDigitYear s) (ht : FourDigitYear t) (h : s < t) :
    Bytes.le (text (ofSeconds s)) (text (ofSeconds t)) = true := by
  obtain ⟨hys0, hys1⟩ := hs.year_bounds
  obtain ⟨hyt0, hyt1⟩ := ht.year_bounds
  have hlength := (length_decimalInt_year hys0 hys1).trans
    (length_decimalInt_year hyt0 hyt1).symm
  obtain ⟨hmo, hda, hho, hmi, hse⟩ := ofSeconds_bounds s
  obtain ⟨hmo', hda', hho', hmi', hse'⟩ := ofSeconds_bounds t
  have hbefore := before_of_lt h
  generalize ofSeconds s = a at *
  generalize ofSeconds t = b at *
  simp only [text, List.append_assoc]
  rcases hbefore with hy | ⟨hy, hm | ⟨hm, hd | ⟨hd, hh | ⟨hh, hmin | ⟨hmin, hsec⟩⟩⟩⟩⟩
  · refine Bytes.le_append_of_ne hlength (le_decimalInt_year hys0 hyt1 hy) fun heq => ?_
    exact hy.ne (Bytes.decimalInt_injective heq)
  · rw [hy, Bytes.le_append_left]
    exact le_field (by omega) (by omega) hm _ _
  · rw [hy, hm, Bytes.le_append_left, Bytes.le_append_left]
    exact le_field (by omega) (by omega) hd _ _
  · rw [hy, hm, hd, Bytes.le_append_left, Bytes.le_append_left, Bytes.le_append_left]
    exact le_field (by omega) (by omega) hh _ _
  · rw [hy, hm, hd, hh, Bytes.le_append_left, Bytes.le_append_left, Bytes.le_append_left,
      Bytes.le_append_left]
    exact le_field (by omega) (by omega) hmin _ _
  · rw [hy, hm, hd, hh, hmin, Bytes.le_append_left, Bytes.le_append_left,
      Bytes.le_append_left, Bytes.le_append_left, Bytes.le_append_left]
    exact le_field (by omega) (by omega) hsec _ _

theorem le_text_iff {s t : ℤ} (hs : FourDigitYear s) (ht : FourDigitYear t) :
    Bytes.le (text (ofSeconds s)) (text (ofSeconds t)) = true ↔ s ≤ t := by
  constructor
  · intro hle
    by_contra hst
    have hge := le_text_of_lt ht hs (by omega)
    have heq : t = s := text_ofSeconds_injective (Bytes.le_antisymm hge hle)
    omega
  · intro hst
    rcases hst.lt_or_eq with hlt | rfl
    · exact le_text_of_lt hs ht hlt
    · exact Bytes.le_refl _

end Civil
