import Mathlib.Data.Int.Basic
import Mathlib.Tactic.Ring
import Bossa.Data.Bytes

/-!
# Broken-down UTC time

`ofSeconds` turns a count of seconds since 1970-01-01T00:00:00Z into a date and
a time of day in the proleptic Gregorian calendar: days are counted from
0000-03-01 in eras of 400 years, so that the leap day ends its year.
`toSeconds` goes the other way. The second function recovers the argument of
the first, so different seconds have different broken-down times; printed with
fixed-width fields behind the year they also have different texts.
-/

namespace Civil

/-- A broken-down time. -/
structure Time where
  year : ℤ
  month : ℤ
  day : ℤ
  hour : ℤ
  minute : ℤ
  second : ℤ
  deriving DecidableEq, Repr

/-- The century of an era on the given day of that era. The last century is a
day longer than the others. -/
def centuryOfEra (dayOfEra : ℤ) : ℤ := min (dayOfEra / 36524) 3

/-- The year of an era on the given day of that era: centuries, groups of four
years with one leap day, single years of which the last may be longer. -/
def yearOfEra (dayOfEra : ℤ) : ℤ :=
  let dayOfCentury := dayOfEra - 36524 * centuryOfEra dayOfEra
  100 * centuryOfEra dayOfEra + 4 * (dayOfCentury / 1461) +
    min (dayOfCentury % 1461 / 365) 3

/-- The number of days of an era before the given year of it. -/
def daysBeforeYear (yearOfEra : ℤ) : ℤ :=
  365 * yearOfEra + yearOfEra / 4 - yearOfEra / 100

/-- The month, counted from March, on the given day of a year that starts in
March. -/
def monthOfYear (dayOfYear : ℤ) : ℤ := (5 * dayOfYear + 2) / 153

/-- The number of days before a month of a year that starts in March. -/
def daysBeforeMonth (month : ℤ) : ℤ := (153 * month + 2) / 5

/-- The broken-down time of a count of seconds. -/
def ofSeconds (seconds : ℤ) : Time :=
  let days := seconds / 86400 + 719468
  let secondOfDay := seconds % 86400
  let dayOfEra := days % 146097
  let year := yearOfEra dayOfEra
  let dayOfYear := dayOfEra - daysBeforeYear year
  let month := monthOfYear dayOfYear
  { year := year + days / 146097 * 400 + if month < 10 then 0 else 1
    month := if month < 10 then month + 3 else month - 9
    day := dayOfYear - daysBeforeMonth month + 1
    hour := secondOfDay / 3600
    minute := secondOfDay / 60 % 60
    second := secondOfDay % 60 }

def toSeconds (t : Time) : ℤ :=
  let year := if 3 ≤ t.month then t.year else t.year - 1
  let month := if 3 ≤ t.month then t.month - 3 else t.month + 9
  let dayOfEra := daysBeforeYear (year % 400) + (daysBeforeMonth month + t.day - 1)
  (year / 400 * 146097 + dayOfEra - 719468) * 86400 +
    t.hour * 3600 + t.minute * 60 + t.second

theorem yearOfEra_bounds {d : ℤ} (h0 : 0 ≤ d) (h1 : d < 146097) :
    0 ≤ yearOfEra d ∧ yearOfEra d < 400 := by
  simp only [yearOfEra, centuryOfEra]
  omega

theorem daysBeforeYear_eq {c q y : ℤ} (hq0 : 0 ≤ q) (hq1 : q ≤ 24) (hy0 : 0 ≤ y)
    (hy1 : y ≤ 3) :
    daysBeforeYear (100 * c + 4 * q + y) = 36524 * c + 1461 * q + 365 * y := by
  have h4 : (100 * c + 4 * q + y) / 4 = 25 * c + q := by omega
  have h100 : (100 * c + 4 * q + y) / 100 = c := by omega
  rw [daysBeforeYear, h4, h100]
  ring

theorem dayOfYear_bounds {d : ℤ} (h0 : 0 ≤ d) (h1 : d < 146097) :
    0 ≤ d - daysBeforeYear (yearOfEra d) ∧
      d - daysBeforeYear (yearOfEra d) ≤ 365 := by
  simp only [yearOfEra, centuryOfEra]
  rw [daysBeforeYear_eq (by omega) (by omega) (by omega) (by omega)]
  omega

theorem monthOfYear_bounds {d : ℤ} (h0 : 0 ≤ d) (h1 : d ≤ 365) :
    0 ≤ monthOfYear d ∧ monthOfYear d < 12 := by
  unfold monthOfYear
  omega

theorem dayOfMonth_bounds (d : ℤ) :
    0 ≤ d - daysBeforeMonth (monthOfYear d) ∧
      d - daysBeforeMonth (monthOfYear d) < 31 := by
  unfold daysBeforeMonth monthOfYear
  omega

theorem ofSeconds_bounds (s : ℤ) :
    (1 ≤ (ofSeconds s).month ∧ (ofSeconds s).month ≤ 12) ∧
      (1 ≤ (ofSeconds s).day ∧ (ofSeconds s).day ≤ 31) ∧
      (0 ≤ (ofSeconds s).hour ∧ (ofSeconds s).hour < 24) ∧
      (0 ≤ (ofSeconds s).minute ∧ (ofSeconds s).minute < 60) ∧
      0 ≤ (ofSeconds s).second ∧ (ofSeconds s).second < 60 := by
  have hera : 0 ≤ (s / 86400 + 719468) % 146097 ∧
      (s / 86400 + 719468) % 146097 < 146097 := by omega
  obtain ⟨hy0, hy1⟩ := dayOfYear_bounds hera.1 hera.2
  obtain ⟨hm0, hm1⟩ := monthOfYear_bounds hy0 hy1
  obtain ⟨hd0, hd1⟩ := dayOfMonth_bounds ((s / 86400 + 719468) % 146097 -
    daysBeforeYear (yearOfEra ((s / 86400 + 719468) % 146097)))
  simp only [ofSeconds]
  refine ⟨?_, by omega, by omega, by omega, by omega⟩
  split <;> omega

theorem toSeconds_mk {era year month dayOfYear secondOfDay : ℤ} (hy0 : 0 ≤ year)
    (hy1 : year < 400) (hm0 : 0 ≤ month) (hm1 : month < 12) :
    toSeconds
        { year := year + era * 400 + if month < 10 then 0 else 1
          month := if month < 10 then month + 3 else month - 9
          day := dayOfYear - daysBeforeMonth month + 1
          hour := secondOfDay / 3600
          minute := secondOfDay / 60 % 60
          second := secondOfDay % 60 } =
      (era * 146097 + (daysBeforeYear year + dayOfYear) - 719468) * 86400 +
        secondOfDay := by
  by_cases hlt : month < 10
  · have hmonth : 3 ≤ month + 3 := by omega
    have hmod : (year + era * 400) % 400 = year := by omega
    have hdiv : (year + era * 400) / 400 = era := by omega
    simp only [toSeconds, hlt, if_true, hmonth, add_zero, hmod, hdiv,
      add_sub_cancel_right]
    omega
  · have hmonth : ¬ 3 ≤ month - 9 := by omega
    have hmod : (year + era * 400) % 400 = year := by omega
    have hdiv : (year + era * 400) / 400 = era := by omega
    simp only [toSeconds, hlt, if_false, hmonth, add_sub_cancel_right, hmod, hdiv,
      sub_add_cancel]
    omega

theorem toSeconds_ofSeconds (s : ℤ) : toSeconds (ofSeconds s) = s := by
  have hera : 0 ≤ (s / 86400 + 719468) % 146097 ∧
      (s / 86400 + 719468) % 146097 < 146097 := by omega
  obtain ⟨hyear0, hyear1⟩ := yearOfEra_bounds hera.1 hera.2
  obtain ⟨hy0, hy1⟩ := dayOfYear_bounds hera.1 hera.2
  obtain ⟨hm0, hm1⟩ := monthOfYear_bounds hy0 hy1
  rw [ofSeconds, toSeconds_mk hyear0 hyear1 hm0 hm1]
  omega

theorem ofSeconds_injective : Function.Injective ofSeconds :=
  Function.LeftInverse.injective toSeconds_ofSeconds

/-- A number below one hundred as two decimal digits. -/
def twoDigits (n : ℤ) : Bytes :=
  [(48 + n / 10).toNat.toUInt8, (48 + n % 10).toNat.toUInt8]

/-- A broken-down time as `%Y-%m-%dT%H:%M:%SZ`. -/
def text (t : Time) : Bytes :=
  Bytes.decimalInt t.year ++ (45 :: twoDigits t.month) ++ (45 :: twoDigits t.day) ++
    (84 :: twoDigits t.hour) ++ (58 :: twoDigits t.minute) ++
    (58 :: twoDigits t.second) ++ [90]

theorem twoDigits_inj {m n : ℤ} (hm0 : 0 ≤ m) (hm1 : m < 100) (hn0 : 0 ≤ n)
    (hn1 : n < 100) (h : twoDigits m = twoDigits n) : m = n := by
  have hdigit : ∀ a b : ℤ, 0 ≤ a → a < 10 → 0 ≤ b → b < 10 →
      (48 + a).toNat.toUInt8 = (48 + b).toNat.toUInt8 → a = b := by
    intro a b ha0 ha1 hb0 hb1 hab
    have hnat := congrArg UInt8.toNat hab
    simp only [Nat.toUInt8, UInt8.toNat_ofNat'] at hnat
    omega
  simp only [twoDigits, List.cons.injEq, and_true] at h
  have htens := hdigit _ _ (by omega) (by omega) (by omega) (by omega) h.1
  have hunits := hdigit _ _ (by omega) (by omega) (by omega) (by omega) h.2
  omega

theorem text_ofSeconds_injective : Function.Injective fun s => text (ofSeconds s) := by
  intro s t h
  obtain ⟨hmo, hda, hho, hmi, hse⟩ := ofSeconds_bounds s
  obtain ⟨hmo', hda', hho', hmi', hse'⟩ := ofSeconds_bounds t
  apply ofSeconds_injective
  simp only [text] at h
  obtain ⟨h, -⟩ := List.append_inj' h rfl
  obtain ⟨h, hsecond⟩ := List.append_inj' h rfl
  obtain ⟨h, hminute⟩ := List.append_inj' h rfl
  obtain ⟨h, hhour⟩ := List.append_inj' h rfl
  obtain ⟨h, hday⟩ := List.append_inj' h rfl
  obtain ⟨hyear, hmonth⟩ := List.append_inj' h rfl
  simp only [List.cons.injEq, true_and] at hmonth hday hhour hminute hsecond
  have e1 := Bytes.decimalInt_injective hyear
  have e2 := twoDigits_inj (by omega) (by omega) (by omega) (by omega) hmonth
  have e3 := twoDigits_inj (by omega) (by omega) (by omega) (by omega) hday
  have e4 := twoDigits_inj (by omega) (by omega) (by omega) (by omega) hhour
  have e5 := twoDigits_inj (by omega) (by omega) (by omega) (by omega) hminute
  have e6 := twoDigits_inj (by omega) (by omega) (by omega) (by omega) hsecond
  cases hs : ofSeconds s with
  | mk year month day hour minute second =>
      cases ht : ofSeconds t with
      | mk year' month' day' hour' minute' second' =>
          simp only [hs, ht] at e1 e2 e3 e4 e5 e6
          simp [e1, e2, e3, e4, e5, e6]

theorem decimal_ascii (n : ℕ) : ∀ c ∈ Bytes.decimal n, c ≤ 0x7F := by
  intro c hc
  obtain ⟨d, hd, rfl⟩ := List.mem_map.mp hc
  have hdigit : d.isDigit := Nat.isDigit_of_mem_toDigits (by omega) (by omega) hd
  have hnat := Bytes.toUInt8_toNat_of_isDigit hdigit
  simp only [Char.isDigit, Bool.and_eq_true, decide_eq_true_eq] at hdigit
  have h57 := UInt32.le_iff_toNat_le.mp hdigit.2
  have hle : d.toNat ≤ 57 := by simpa using h57
  rw [UInt8.le_iff_toNat_le, hnat]
  exact hle.trans (by decide)

theorem decimalInt_ascii (n : ℤ) : ∀ c ∈ Bytes.decimalInt n, c ≤ 0x7F := by
  cases n with
  | ofNat n => exact decimal_ascii n
  | negSucc n =>
      intro c hc
      rcases List.mem_cons.mp hc with rfl | hc
      · decide
      · exact decimal_ascii _ c hc

theorem twoDigits_ascii {n : ℤ} (h0 : 0 ≤ n) (h1 : n < 100) :
    ∀ c ∈ twoDigits n, c ≤ 0x7F := by
  have hdigit : ∀ a : ℤ, 0 ≤ a → a < 10 → (48 + a).toNat.toUInt8 ≤ 0x7F := by
    intro a ha0 ha1
    have h7F : (0x7F : UInt8).toNat = 127 := rfl
    rw [UInt8.le_iff_toNat_le, h7F, Nat.toUInt8, UInt8.toNat_ofNat']
    omega
  simp only [twoDigits, List.forall_mem_cons, List.not_mem_nil, false_implies,
    implies_true, and_true]
  exact ⟨hdigit _ (by omega) (by omega), hdigit _ (by omega) (by omega)⟩

theorem text_ascii (s : ℤ) : ∀ c ∈ text (ofSeconds s), c ≤ 0x7F := by
  obtain ⟨hmo, hda, hho, hmi, hse⟩ := ofSeconds_bounds s
  have hyear := decimalInt_ascii (ofSeconds s).year
  have hmonth := twoDigits_ascii (n := (ofSeconds s).month) (by omega) (by omega)
  have hday := twoDigits_ascii (n := (ofSeconds s).day) (by omega) (by omega)
  have hhour := twoDigits_ascii (n := (ofSeconds s).hour) (by omega) (by omega)
  have hminute := twoDigits_ascii (n := (ofSeconds s).minute) (by omega) (by omega)
  have hsecond := twoDigits_ascii (n := (ofSeconds s).second) (by omega) (by omega)
  have h45 : (45 : UInt8) ≤ 0x7F := by decide
  have h84 : (84 : UInt8) ≤ 0x7F := by decide
  have h58 : (58 : UInt8) ≤ 0x7F := by decide
  have h90 : (90 : UInt8) ≤ 0x7F := by decide
  simp only [text, List.forall_mem_append, List.forall_mem_cons, List.not_mem_nil,
    false_implies, implies_true, and_true]
  exact ⟨⟨⟨⟨⟨⟨hyear, h45, hmonth⟩, h45, hday⟩, h84, hhour⟩, h58, hminute⟩, h58, hsecond⟩, h90⟩

example : text (ofSeconds 951825599) = Bytes.ascii "2000-02-29T11:59:59Z" := by
  decide

end Civil
