import FeedReader.Calendar.Stamp
import FeedReader.Proofs.Text.Order
import Mathlib.Tactic.IntervalCases

/-!
# Stamps are ordered like the times they stand for

* `Date.compare_ofDayNumber`: year, month and day of two days are ordered like the days;
* `Date.valid_ofDayNumber`, `LocalTime.ofFields?_fields`: days have dates that exist, and times are
  those with their dates and clock readings;
* `LocalTime.compare_micros`: so are days, hours, minutes, seconds and fractions of two times;
* `LocalTime.compare_stamp`;
* `Moment.utcWall`, `Moment.compare_stamp`: the stamps of moments are ordered like their instants.
-/

namespace FeedReader

/-! ### Dates -/

namespace Date

theorem daysBeforeYear_le {y z : Nat} (h : y ≤ z) : daysBeforeYear y ≤ daysBeforeYear z := by
  induction h with
  | refl => exact Nat.le_refl _
  | step h ih =>
    refine Nat.le_trans ih ?_
    unfold daysBeforeYear
    omega

/-- An earlier year ends before a later one begins. -/
theorem lt_of_yearOfDay_lt {m n : Nat} (h : yearOfDay m < yearOfDay n) : m < n :=
  calc
    m < daysBeforeYear (yearOfDay m + 1) := lt_daysBeforeYear_yearOfDay_succ m
    _ ≤ daysBeforeYear (yearOfDay n) := daysBeforeYear_le h
    _ ≤ n := daysBeforeYear_yearOfDay_le n

/-- The months after the one of a day have not begun. -/
theorem lt_daysBeforeMonth {year k m j : Nat} (h : monthAmong year k m < j) (hj : j ≤ m) :
    k < daysBeforeMonth year j := by
  induction m with
  | zero => simp [monthAmong] at h; omega
  | succ m ih =>
    unfold monthAmong at h
    split at h
    · omega
    · next later =>
      rcases Nat.lt_or_eq_of_le hj with lt | rfl
      · exact ih h (by omega)
      · omega

theorem monthAmong_le (year k : Nat) {m : Nat} (hm : 0 < m) : monthAmong year k m ≤ m := by
  induction m with
  | zero => omega
  | succ m ih =>
    unfold monthAmong
    split
    · exact Nat.le_refl _
    · rcases Nat.eq_zero_or_pos m with rfl | pos
      · exact Nat.le_refl _
      · exact Nat.le_succ_of_le (ih pos)

theorem monthOfDay_le (year k : Nat) : monthOfDay year k ≤ 12 := monthAmong_le year k (by decide)

theorem lt_of_monthOfDay_lt {year k l : Nat} (h : monthOfDay year k < monthOfDay year l) : k < l :=
  Nat.lt_of_lt_of_le (lt_daysBeforeMonth h (monthOfDay_le year l))
    (daysBeforeMonth_monthAmong_le year l 12)

theorem daysBeforeMonth_monthOfDay_le (year k : Nat) :
    daysBeforeMonth year (monthOfDay year k) ≤ k :=
  daysBeforeMonth_monthAmong_le year k 12

/-- Days are ordered by year, then by month, then by the day of the month. -/
theorem compare_ofDayNumber (m n : Nat) :
    (compare (ofDayNumber m).year (ofDayNumber n).year).then
      ((compare (ofDayNumber m).month (ofDayNumber n).month).then
        (compare (ofDayNumber m).day (ofDayNumber n).day)) = compare m n := by
  simp only [ofDayNumber]
  refine then_compare_eq lt_of_yearOfDay_lt lt_of_yearOfDay_lt fun same_year => ?_
  -- in one year, days and months are counted from its start
  have hm := daysBeforeYear_yearOfDay_le m
  have hn := daysBeforeYear_yearOfDay_le n
  rw [← same_year] at hn ⊢
  rw [← compare_sub hm hn]
  refine then_compare_eq lt_of_monthOfDay_lt lt_of_monthOfDay_lt fun same_month => ?_
  have hk := daysBeforeMonth_monthOfDay_le (yearOfDay m) (m - daysBeforeYear (yearOfDay m))
  have hl := daysBeforeMonth_monthOfDay_le (yearOfDay m) (n - daysBeforeYear (yearOfDay m))
  rw [← same_month] at hl ⊢
  rw [Nat.add_comm _ 1, Nat.add_comm _ 1, compare_add_left, compare_sub hk hl]

/-! ### The dates of the calendar -/

/-- A year begins when the one before it has passed. -/
theorem daysBeforeYear_succ {y : Nat} (h : 1 ≤ y) :
    daysBeforeYear (y + 1) = daysBeforeYear y + daysBeforeMonth y 13 := by
  obtain ⟨m, rfl⟩ := Nat.exists_eq_add_of_le' h
  have length : daysBeforeMonth (m + 1) 13 = 365 + if isLeapYear (m + 1) then 1 else 0 := rfl
  have leap : isLeapYear (m + 1) = true ↔
      4 ∣ m + 1 ∧ (¬ 100 ∣ m + 1 ∨ 400 ∣ m + 1) := by
    simp [isLeapYear, Nat.dvd_iff_mod_eq_zero]
  simp only [length, leap, daysBeforeYear, Nat.add_sub_cancel, Nat.succ_div]
  clear length leap
  split_ifs <;> omega

/-- A month begins when the one before it has passed. -/
theorem daysBeforeMonth_succ (year : Nat) {m : Nat} (h : 1 ≤ m) (h' : m ≤ 12) :
    daysBeforeMonth year (m + 1) = daysBeforeMonth year m + monthLength year m := by
  unfold daysBeforeMonth monthLength
  cases isLeapYear year <;> interval_cases m <;> rfl

theorem one_le_yearOfDay (n : Nat) : 1 ≤ yearOfDay n := by
  by_contra h
  have zero : yearOfDay n = 0 := by omega
  have := lt_daysBeforeYear_yearOfDay_succ n
  simp [zero, daysBeforeYear] at this

theorem one_le_monthAmong (year k m : Nat) : 1 ≤ monthAmong year k m := by
  induction m with
  | zero => exact Nat.le_refl _
  | succ m ih => unfold monthAmong; split <;> omega

/-- The month after the one of a day has not begun. -/
theorem lt_daysBeforeMonth_succ {year k : Nat} (h : k < daysBeforeMonth year 13) :
    k < daysBeforeMonth year (monthOfDay year k + 1) := by
  rcases Nat.lt_or_ge (monthOfDay year k) 12 with early | last
  · exact lt_daysBeforeMonth (m := 12) (Nat.lt_add_one _) early
  · rwa [Nat.le_antisymm (monthOfDay_le year k) last]

theorem year_ofDayNumber_le {n : Nat} (h : n < dayCount) : (ofDayNumber n).year ≤ lastYear := by
  refine Nat.le_of_not_lt fun late => ?_
  have begins := daysBeforeYear_yearOfDay_le n
  have := daysBeforeYear_le (y := lastYear + 1) (z := yearOfDay n) late
  simp only [dayCount] at h
  omega

/-- Every day of the calendar has a date that exists. -/
theorem valid_ofDayNumber {n : Nat} (h : n < dayCount) : (ofDayNumber n).Valid := by
  have first := one_le_yearOfDay n
  have begun := daysBeforeYear_yearOfDay_le n
  have next := lt_daysBeforeYear_yearOfDay_succ n
  rw [daysBeforeYear_succ first] at next
  have latest := year_ofDayNumber_le h
  simp only [Valid, ofDayNumber] at latest ⊢
  generalize yearOfDay n = year at *
  generalize hk : n - daysBeforeYear year = k
  have month : 1 ≤ monthOfDay year k := one_le_monthAmong year k 12
  have last := monthOfDay_le year k
  have before := daysBeforeMonth_monthOfDay_le year k
  have after : k < daysBeforeMonth year (monthOfDay year k + 1) :=
    lt_daysBeforeMonth_succ (by omega)
  rw [daysBeforeMonth_succ year month last] at after
  exact ⟨first, latest, month, last, by omega, by omega⟩

theorem monthLength_le (year month : Nat) : monthLength year month ≤ 31 := by
  unfold monthLength
  split
  · split <;> omega
  all_goals omega

theorem year_ofDayNumber_lt {n : Nat} (h : n < dayCount) : (ofDayNumber n).year < 10 ^ 4 :=
  Nat.lt_succ_of_le (year_ofDayNumber_le h)

theorem month_ofDayNumber_lt (n : Nat) : (ofDayNumber n).month < 10 ^ 2 :=
  Nat.lt_of_le_of_lt (monthOfDay_le _ _) (by decide)

theorem day_ofDayNumber_lt {n : Nat} (h : n < dayCount) : (ofDayNumber n).day < 10 ^ 2 := by
  obtain ⟨-, -, -, -, -, length⟩ := valid_ofDayNumber h
  have := monthLength_le (ofDayNumber n).year (ofDayNumber n).month
  omega

end Date

/-! ### Times -/

namespace LocalTime

theorem hour_lt (t : LocalTime) : t.hour < 24 := by
  unfold hour timeOfDay
  have : t.micros % Duration.day < Duration.day := Nat.mod_lt _ (by decide)
  exact (Nat.div_lt_iff_lt_mul (by decide)).2 this

theorem minute_lt (t : LocalTime) : t.minute < 60 := Nat.mod_lt _ (by decide)

theorem second_lt (t : LocalTime) : t.second < 60 := Nat.mod_lt _ (by decide)

theorem fraction_lt (t : LocalTime) : t.fraction < 10 ^ 6 := Nat.mod_lt _ (by decide)

/-- A time is the one with its date and its clock reading. -/
theorem ofFields?_fields (t : LocalTime) :
    ofFields? t.date t.hour t.minute t.second t.fraction = some t := by
  have total : t.dayNumber * Duration.day + t.hour * Duration.hour + t.minute * Duration.minute +
      t.second * Duration.second + t.fraction = t.micros := by
    simp only [dayNumber, hour, minute, second, fraction, timeOfDay, Duration.day, Duration.hour,
      Duration.minute, Duration.second]
    omega
  rw [ofFields?, if_pos ⟨Date.valid_ofDayNumber t.dayNumber_lt, t.hour_lt, t.minute_lt,
    t.second_lt, t.fraction_lt⟩, date, Date.dayNumber_ofDayNumber, total, ofInt?_micros]

/-- Times are ordered by day, then by hour, minute, second and fraction. -/
theorem compare_micros (s t : LocalTime) :
    (compare s.dayNumber t.dayNumber).then ((compare s.hour t.hour).then
      ((compare s.minute t.minute).then ((compare s.second t.second).then
        (compare s.fraction t.fraction)))) = compare s.micros t.micros := by
  have seconds (n : Nat) : n / Duration.minute = n / Duration.second / 60 := by
    rw [Nat.div_div_eq_div_mul]
    rfl
  have minutes (n : Nat) : n / Duration.hour = n / Duration.minute / 60 := by
    rw [Nat.div_div_eq_div_mul]
    rfl
  have fraction (t : LocalTime) : t.fraction = t.timeOfDay % Duration.second :=
    (Nat.mod_mod_of_dvd _ (by decide)).symm
  rw [← compare_div_then_mod Duration.day s.micros t.micros]
  unfold dayNumber
  congr 1
  rw [hour, hour, minute, minute, second, second, fraction, fraction, ← Ordering.then_assoc,
    minutes, minutes, compare_div_then_mod, ← Ordering.then_assoc, seconds, seconds,
    compare_div_then_mod, compare_div_then_mod]
  rfl

/-- Stamps are ordered like the times they stand for. -/
theorem compare_stamp (s t : LocalTime) :
    Text.compare s.stamp t.stamp = compare s.micros t.micros := by
  -- what stands between the numbers is the same in both stamps
  have mark (m u v : Text) : Text.compare (m ++ u) (m ++ v) = Text.compare u v := by
    rw [Text.compare_append rfl, Text.compare_self, Ordering.eq_then]
  have number {width a b : Nat} (ha : a < 10 ^ width) (hb : b < 10 ^ width) (u v : Text) :
      Text.compare (Text.padded width a ++ u) (Text.padded width b ++ v) =
        (compare a b).then (Text.compare u v) := by
    rw [Text.compare_append (by simp), Text.compare_padded ha hb]
  have two {n k : Nat} (hk : k ≤ 100) (h : n < k) : n < 10 ^ 2 := by omega
  simp only [stamp, date, List.append_assoc]
  rw [number (Date.year_ofDayNumber_lt s.dayNumber_lt) (Date.year_ofDayNumber_lt t.dayNumber_lt),
    mark, number (Date.month_ofDayNumber_lt _) (Date.month_ofDayNumber_lt _),
    mark, number (Date.day_ofDayNumber_lt s.dayNumber_lt) (Date.day_ofDayNumber_lt t.dayNumber_lt),
    mark, number (two (by decide) s.hour_lt) (two (by decide) t.hour_lt),
    mark, number (two (by decide) s.minute_lt) (two (by decide) t.minute_lt),
    mark, number (two (by decide) s.second_lt) (two (by decide) t.second_lt),
    mark, Text.compare_padded s.fraction_lt t.fraction_lt, ← compare_micros s t,
    ← Date.compare_ofDayNumber s.dayNumber, Ordering.then_assoc, Ordering.then_assoc]

end LocalTime

/-! ### Moments on the calendar of UTC -/

namespace Moment

/-- The local time of the same instant in UTC, for a moment that the calendar of UTC reaches. -/
def utcWall (m : Moment) : LocalTime := (m.utc?.getD m).wall

theorem utc?_eq {m : Moment} (h : m.utc?.isSome) : m.utc? = some (ofUtc m.utcWall) := by
  obtain ⟨u, hu⟩ := Option.isSome_iff_exists.1 h
  obtain ⟨t, -, rfl⟩ := Option.map_eq_some_iff.1 (by rwa [utc?] at hu)
  simp [utcWall, hu, ofUtc]

theorem micros_utcWall {m : Moment} (h : m.utc?.isSome) : (m.utcWall.micros : Int) = m.instant := by
  rw [← instant_of_utc? (utc?_eq h), instant_ofUtc]

/-- Stamps are ordered like the instants they stand for. -/
theorem compare_stamp {a b : Moment} (ha : a.utc?.isSome) (hb : b.utc?.isSome) :
    Text.compare a.utcWall.stamp b.utcWall.stamp = compare a.instant b.instant := by
  rw [LocalTime.compare_stamp, ← micros_utcWall ha, ← micros_utcWall hb]
  simp [Nat.compare_eq_ite_lt, Int.compare_eq_ite_lt]

end Moment

end FeedReader
