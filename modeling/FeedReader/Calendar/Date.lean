/-!
# Dates

The Gregorian calendar, extended backwards to year 1. Days are counted from the first of January of
year 1, which is day 0.

* `isLeapYear`, `yearLength`, `monthLength`;
* `daysBeforeYear`, `daysBeforeMonth`, and `Date.dayNumber`;
* `yearOfDay`, `monthOfDay` and `Date.ofDayNumber`, the way back;
* `Date.dayNumber_ofDayNumber`: the way back leads to the same day.
-/

namespace FeedReader

/-- A day of the calendar. -/
structure Date where
  year : Nat
  month : Nat
  day : Nat
  deriving DecidableEq

namespace Date

/-- Whether a year has a 29th of February. -/
def isLeapYear (year : Nat) : Bool := year % 4 = 0 && (year % 100 ≠ 0 || year % 400 = 0)

/-- The number of days of a month. -/
def monthLength (year month : Nat) : Nat :=
  match month with
  | 2 => if isLeapYear year then 29 else 28
  | 4 | 6 | 9 | 11 => 30
  | _ => 31

/-- The first year of the calendar. -/
def firstYear : Nat := 1

/-- The last year of the calendar. -/
def lastYear : Nat := 9999

/-- Whether a day exists in the calendar. -/
def Valid (d : Date) : Prop :=
  firstYear ≤ d.year ∧ d.year ≤ lastYear ∧ 1 ≤ d.month ∧ d.month ≤ 12 ∧ 1 ≤ d.day ∧
    d.day ≤ monthLength d.year d.month

instance (d : Date) : Decidable d.Valid := by unfold Valid; infer_instance

/-! ### Counting days -/

/-- The number of days before the first of January. -/
def daysBeforeYear (year : Nat) : Nat :=
  365 * (year - 1) + (year - 1) / 4 - (year - 1) / 100 + (year - 1) / 400

/-- The number of days of a year before its first of a month. -/
def daysBeforeMonth (year month : Nat) : Nat :=
  let leapDay := if isLeapYear year then 1 else 0
  match month with
  | 0 | 1 => 0
  | 2 => 31
  | 3 => 59 + leapDay
  | 4 => 90 + leapDay
  | 5 => 120 + leapDay
  | 6 => 151 + leapDay
  | 7 => 181 + leapDay
  | 8 => 212 + leapDay
  | 9 => 243 + leapDay
  | 10 => 273 + leapDay
  | 11 => 304 + leapDay
  | 12 => 334 + leapDay
  | _ => 365 + leapDay

/-- The number of days before a date. -/
def dayNumber (d : Date) : Nat :=
  daysBeforeYear d.year + daysBeforeMonth d.year d.month + (d.day - 1)

/-- The number of days of the calendar. -/
def dayCount : Nat := daysBeforeYear (lastYear + 1)

/-! ### The way back -/

/-- The year that a day lies in. The average length of a year gives a year that is right or off by
one. -/
def yearOfDay (n : Nat) : Nat :=
  let guess := n * 400 / 146097 + 1
  if n < daysBeforeYear guess then guess - 1
  else if daysBeforeYear (guess + 1) ≤ n then guess + 1
  else guess

theorem daysBeforeYear_yearOfDay_le (n : Nat) : daysBeforeYear (yearOfDay n) ≤ n := by
  unfold yearOfDay
  generalize hg : n * 400 / 146097 + 1 = guess
  simp only
  split
  · unfold daysBeforeYear; omega
  · split
    · assumption
    · omega

theorem lt_daysBeforeYear_yearOfDay_succ (n : Nat) : n < daysBeforeYear (yearOfDay n + 1) := by
  unfold yearOfDay
  generalize hg : n * 400 / 146097 + 1 = guess
  simp only
  split
  · next h => rwa [Nat.sub_add_cancel (by omega)]
  · split
    · unfold daysBeforeYear; omega
    · omega

/-- The last of the first `m` months of a year that has begun on its day `k`. -/
def monthAmong (year k : Nat) : Nat → Nat
  | 0 => 1
  | m + 1 => if daysBeforeMonth year (m + 1) ≤ k then m + 1 else monthAmong year k m

/-- The month that the day `k` of a year lies in. -/
def monthOfDay (year k : Nat) : Nat := monthAmong year k 12

theorem daysBeforeMonth_monthAmong_le (year k m : Nat) :
    daysBeforeMonth year (monthAmong year k m) ≤ k := by
  induction m with
  | zero => exact Nat.zero_le k
  | succ m ih => unfold monthAmong; split <;> assumption

/-- The date of a day. -/
def ofDayNumber (n : Nat) : Date :=
  let year := yearOfDay n
  let k := n - daysBeforeYear year
  let month := monthOfDay year k
  ⟨year, month, k - daysBeforeMonth year month + 1⟩

theorem dayNumber_ofDayNumber (n : Nat) : (ofDayNumber n).dayNumber = n := by
  have h := daysBeforeYear_yearOfDay_le n
  have h' := daysBeforeMonth_monthAmong_le (yearOfDay n) (n - daysBeforeYear (yearOfDay n)) 12
  simp only [ofDayNumber, dayNumber, monthOfDay]
  omega

end Date

end FeedReader
