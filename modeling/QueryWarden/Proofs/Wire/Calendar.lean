import QueryWarden.Wire.Instant

/-! Days and dates. Four hundred years are an era of 146097 days; its years begin in March, so that a leap
day is the last of its year, and the date of a day is read off its place in the year. -/
namespace QueryWarden.Wire.Instant

def yearOfDay (n : Nat) : Nat := (n - n / 1460 + n / 36524 - n / 146096) / 365

def daysBefore (y : Nat) : Nat := 365 * y + y / 4 - y / 100

/-- A day of an era but the last is a day of a four years' cycle of a century. -/
theorem day_split {n : Nat} (within : n < 146096) : ∃ q p t, n = 36524 * q + 1461 * p + t ∧
    q ≤ 3 ∧ p ≤ 24 ∧ t ≤ 1460 ∧ (p = 24 → t ≤ 1459) := by
  exact ⟨n / 36524, n % 36524 / 1461, n % 36524 % 1461, by omega⟩

theorem yearOfDay_cycle {q p t : Nat} (hq : q ≤ 3) (hp : p ≤ 24) (ht : t ≤ 1460)
    (short : p = 24 → t ≤ 1459) :
    yearOfDay (36524 * q + 1461 * p + t) = 100 * q + 4 * p + min (t / 365) 3 := by
  have first : (36524 * q + 1461 * p + t) / 1460 = 25 * q + p + (24 * q + p + t) / 1460 := by omega
  have second : (36524 * q + 1461 * p + t) / 36524 = q := by omega
  have third : (36524 * q + 1461 * p + t) / 146096 = 0 := by omega
  obtain ⟨e, he⟩ : ∃ e, (24 * q + p + t) / 1460 = e := ⟨_, rfl⟩
  have late : e = 0 ∧ t < 1460 ∨ e = 1 ∧ 1364 ≤ t := by omega
  have days : 36524 * q + 1461 * p + t - (25 * q + p + e) + q - 0 = 365 * (100 * q + 4 * p) + (t - e) := by
    omega
  rw [yearOfDay, first, second, third, he, days, Nat.mul_add_div (by decide)]
  omega

theorem daysBefore_cycle {q p k : Nat} (hp : p ≤ 24) (hk : k ≤ 3) :
    daysBefore (100 * q + 4 * p + k) = 36524 * q + 1461 * p + 365 * k := by
  rw [daysBefore]
  omega

/-- A day of an era lies in one of its years: it has a place there, and if that is the last of a leap year,
the year that begins in that winter is one. -/
theorem yearOfDay_spec {n : Nat} (within : n < 146097) :
    yearOfDay n < 400 ∧ daysBefore (yearOfDay n) ≤ n ∧ n - daysBefore (yearOfDay n) ≤ 365 ∧
      (n - daysBefore (yearOfDay n) = 365 →
        (yearOfDay n + 1) % 4 = 0 ∧ ((yearOfDay n + 1) % 100 ≠ 0 ∨ (yearOfDay n + 1) % 400 = 0)) := by
  obtain inside | rfl : n < 146096 ∨ n = 146096 := by omega
  · obtain ⟨q, p, t, rfl, hq, hp, ht, short⟩ := day_split inside
    rw [yearOfDay_cycle hq hp ht short, daysBefore_cycle hp (Nat.min_le_right ..)]
    omega
  · decide

def monthOf (shifted : Nat) : Nat := if shifted < 10 then shifted + 3 else shifted - 9

def dateInEra (era : Int) (n : Nat) : Int × Nat × Nat :=
  let y := yearOfDay n
  let place := n - daysBefore y
  let shifted := (5 * place + 2) / 153
  let month := monthOf shifted
  (Int.ofNat y + era * 400 + (if month ≤ 2 then 1 else 0), month, place - (153 * shifted + 2) / 5 + 1)

theorem dateOfDay_era (era : Int) {n : Nat} (within : n < 146097) :
    dateOfDay (era * 146097 + n - 719468) = dateInEra era n := by
  have hera : Int.fdiv (era * 146097 + n - 719468 + 719468) 146097 = era := by
    rw [Int.fdiv_eq_ediv_of_nonneg _ (by decide)]
    omega
  have hn : (era * 146097 + n - 719468 + 719468 - era * 146097).toNat = n := by omega
  simp only [dateOfDay, hera, hn]
  rfl

theorem dayOfDate_era (era : Int) {y month place day : Nat} (inEra : y < 400)
    (hplace : (153 * ((month + 9) % 12) + 2) / 5 + day - 1 = place) :
    dayOfDate (Int.ofNat y + era * 400 + (if month ≤ 2 then 1 else 0)) month day =
      era * 146097 + (daysBefore y + place : Nat) - 719468 := by
  have hyear : (if month ≤ 2 then Int.ofNat y + era * 400 + (if month ≤ 2 then 1 else 0) - 1
      else Int.ofNat y + era * 400 + (if month ≤ 2 then 1 else 0)) = Int.ofNat y + era * 400 := by
    split <;> omega
  have hera : Int.fdiv (Int.ofNat y + era * 400) 400 = era := by
    rw [Int.fdiv_eq_ediv_of_nonneg _ (by decide)]
    simp only [Int.ofNat_eq_natCast]
    omega
  have hy : (Int.ofNat y + era * 400 - era * 400).toNat = y := by
    simp only [Int.ofNat_eq_natCast]
    omega
  have before : y / 100 ≤ y * 365 + y / 4 := by omega
  simp only [dayOfDate, hyear, hera, hy, hplace, daysBefore]
  omega

theorem monthOf_spec (shifted : Nat) (within : shifted ≤ 11) :
    1 ≤ monthOf shifted ∧ monthOf shifted ≤ 12 ∧ (monthOf shifted + 9) % 12 = shifted := by
  rw [monthOf]
  split <;> omega

/-- Every month but February is as long as the way from its beginning to that of the next. -/
theorem monthLength_monthOf (year : Int) {shifted : Nat} (within : shifted < 11) :
    (153 * shifted + 2) / 5 + monthLength year (monthOf shifted) = (153 * (shifted + 1) + 2) / 5 := by
  match shifted, within with
  | 0, _ | 1, _ | 2, _ | 3, _ | 4, _ | 5, _ | 6, _ | 7, _ | 8, _ | 9, _ | 10, _ => rfl

theorem isLeap_eq {y : Nat} (era : Int)
    (h : (y + 1) % 4 = 0 ∧ ((y + 1) % 100 ≠ 0 ∨ (y + 1) % 400 = 0)) :
    isLeap (y + era * 400 + 1) = true := by
  simp only [isLeap, Bool.and_eq_true, Bool.or_eq_true, decide_eq_true_eq]
  omega

/-- The date of a day is a date, and the day is that of the date. -/
theorem dateOfDay_spec (day : Int) :
    (1 ≤ (dateOfDay day).2.1 ∧ (dateOfDay day).2.1 ≤ 12) ∧
    (1 ≤ (dateOfDay day).2.2 ∧ (dateOfDay day).2.2 ≤ monthLength (dateOfDay day).1 (dateOfDay day).2.1) ∧
    dayOfDate (dateOfDay day).1 (dateOfDay day).2.1 (dateOfDay day).2.2 = day := by
  obtain ⟨era, n, within, rfl⟩ : ∃ (era : Int) (n : Nat), n < 146097 ∧ day = era * 146097 + n - 719468 :=
    ⟨(day + 719468) / 146097, ((day + 719468) % 146097).toNat, by omega, by omega⟩
  obtain ⟨inEra, before, place_le, leap⟩ := yearOfDay_spec within
  obtain ⟨place, hplace⟩ : ∃ p, n - daysBefore (yearOfDay n) = p := ⟨_, rfl⟩
  rw [hplace] at place_le leap
  have hn : daysBefore (yearOfDay n) + place = n := by omega
  obtain ⟨shifted, hshifted⟩ : ∃ s, (5 * place + 2) / 153 = s := ⟨_, rfl⟩
  have begun : (153 * shifted + 2) / 5 ≤ place := by omega
  obtain ⟨first, last, back⟩ := monthOf_spec shifted (by omega)
  rw [dateOfDay_era era within, dateInEra]
  simp only [hplace, hshifted]
  refine ⟨⟨first, last⟩, ⟨Nat.le_add_left .., ?_⟩, ?_⟩
  · obtain other | rfl : shifted < 11 ∨ shifted = 11 := by omega
    · have length := monthLength_monthOf
        (Int.ofNat (yearOfDay n) + era * 400 + if monthOf shifted ≤ 2 then 1 else 0) other
      omega
    · -- February: only the last day of a leap year is its twenty-ninth.
      obtain early | rfl : place < 365 ∨ place = 365 := by omega
      · have length (year : Int) : 28 ≤ monthLength year 2 := by
          rw [monthLength, if_pos rfl]
          split <;> omega
        exact Nat.le_trans (by omega) (length _)
      · have leapYear := isLeap_eq era (leap rfl)
        simp [monthOf, monthLength, leapYear]
  · have same : (153 * ((monthOf shifted + 9) % 12) + 2) / 5 +
        (place - (153 * shifted + 2) / 5 + 1) - 1 = place := by
      rw [back]
      omega
    rw [dayOfDate_era era inEra same, hn]

end QueryWarden.Wire.Instant
