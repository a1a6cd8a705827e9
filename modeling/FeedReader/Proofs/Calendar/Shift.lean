import FeedReader.Proofs.Calendar.Order
import FeedReader.TimeExpr.Relative

/-!
# Shifted times

A time is shifted by months on its own calendar and clock, then by an exact duration there, and the
result is given in UTC.

* `Date.IsMonthsAfter`: the day that months lead to, which exists if its year does;
* `Shifted`: a shift that stays on the calendar;
* `LeavesCalendar`, `isEmpty_shifted_iff`: the three ways in which there is none;
* `Moment.addMonths?_eq_some_iff`, `Moment.after?_eq_some_iff`, `Moment.utc?_eq_some_iff`: the steps
  of a shift;
* `Moment.shift_eq_ok_iff`: the shifts that succeed are those that stay on the calendar.
-/

namespace FeedReader

namespace Date

theorem one_le_monthLength (year month : Nat) : 1 ≤ monthLength year month := by
  unfold monthLength
  split
  · split <;> decide
  all_goals decide

theorem daysBeforeMonth_succ_le (year : Nat) {m : Nat} (h : m ≤ 12) :
    daysBeforeMonth year (m + 1) ≤ daysBeforeMonth year 13 := by
  unfold daysBeforeMonth
  cases isLeapYear year <;> interval_cases m <;> decide

/-- The days of the calendar have the numbers below their count. -/
theorem dayNumber_lt {d : Date} (h : d.Valid) : d.dayNumber < dayCount := by
  obtain ⟨first, last, month, month_le, day, length⟩ := h
  have next := daysBeforeMonth_succ d.year month month_le
  have months := daysBeforeMonth_succ_le d.year month_le
  have years : daysBeforeYear (d.year + 1) ≤ dayCount := daysBeforeYear_le (Nat.succ_le_succ last)
  rw [daysBeforeYear_succ first] at years
  simp only [dayNumber]
  omega

/-- Whether a date of the calendar is so many months after another one: it is on the same day of its
month, or on the last one if there is no such day. -/
structure IsMonthsAfter (d : Date) (months : Int) (e : Date) : Prop where
  valid : e.Valid
  month : 12 * (e.year : Int) + e.month = 12 * d.year + d.month + months
  day : e.day = min d.day (monthLength e.year e.month)

/-- There is at most one such date. -/
theorem IsMonthsAfter.unique {d e e' : Date} {months : Int} (h : d.IsMonthsAfter months e)
    (h' : d.IsMonthsAfter months e') : e = e' := by
  obtain ⟨⟨-, -, pos, le, -⟩, total, day⟩ := h
  obtain ⟨⟨-, -, pos', le', -⟩, total', day'⟩ := h'
  have year : e.year = e'.year := by omega
  have month : e.month = e'.month := by omega
  rw [year, month, ← day'] at day
  cases e
  cases e'
  exact (Date.mk.injEq ..).mpr ⟨year, month, day⟩

/-- There is such a date if its year and its month exist. -/
theorem isMonthsAfter_min {d : Date} {months : Int} {year month : Nat} (today : d.Valid)
    (first : firstYear ≤ year) (last : year ≤ lastYear) (pos : 1 ≤ month) (le : month ≤ 12)
    (total : 12 * (year : Int) + month = 12 * d.year + d.month + months) :
    d.IsMonthsAfter months ⟨year, month, min d.day (monthLength year month)⟩ where
  valid :=
    ⟨first, last, pos, le, Nat.le_min.2 ⟨today.2.2.2.2.1, one_le_monthLength year month⟩,
      Nat.min_le_right _ _⟩
  month := total
  day := rfl

/-- The year that months lead to, counted as months since the year 0. -/
def yearAfter (d : Date) (months : Int) : Int := (12 * d.year + (d.month - 1) + months) / 12

/-- The day that months lead to exists if the calendar has its year. -/
theorem exists_isMonthsAfter_iff {d : Date} {months : Int} (today : d.Valid) :
    (∃ e, d.IsMonthsAfter months e) ↔
      firstYear ≤ d.yearAfter months ∧ d.yearAfter months ≤ lastYear := by
  simp only [yearAfter]
  constructor
  · rintro ⟨e, ⟨first, last, pos, le, -⟩, total, -⟩
    omega
  · rintro ⟨first, last⟩
    obtain ⟨year, hyear⟩ := Int.eq_ofNat_of_zero_le (Int.le_trans (Int.natCast_nonneg _) first)
    rw [hyear] at first last
    generalize hindex : 12 * (d.year : Int) + (d.month - 1) + months = index at hyear
    obtain ⟨m, hm⟩ := Int.eq_ofNat_of_zero_le (Int.emod_nonneg index (by decide : (12 : Int) ≠ 0))
    exact ⟨_, isMonthsAfter_min today (Int.ofNat_le.1 first) (Int.ofNat_le.1 last)
      (by omega : 1 ≤ m + 1) (by omega) (by omega)⟩

end Date

namespace LocalTime

/-- The local time so many microseconds after the calendar begins, if it reaches that far. -/
theorem ofInt?_eq_some_iff {k : Int} {t : LocalTime} :
    ofInt? k = some t ↔ (t.micros : Int) = k :=
  ⟨micros_of_ofInt?, fun h => h ▸ ofInt?_micros t⟩

/-- The same clock reading on another day of the calendar. -/
theorem exists_clock {d : Date} (h : d.Valid) (t : LocalTime) :
    ∃ wall : LocalTime, wall.micros = d.dayNumber * Duration.day + t.timeOfDay := by
  have clock : t.timeOfDay < Duration.day := Nat.mod_lt _ (by decide)
  refine ⟨⟨_, ?_⟩, rfl⟩
  calc
    _ < (d.dayNumber + 1) * Duration.day := by rw [Nat.succ_mul]; omega
    _ ≤ Date.dayCount * Duration.day := Nat.mul_le_mul_right _ (Date.dayNumber_lt h)

end LocalTime

/-- A shift of a moment by months and then by a duration that stays on the calendar: the day that the
months lead to, the local time of the clock on this day after the duration, and this time in UTC. -/
structure Shifted (now : Moment) (months : Int) (exact : Duration) where
  date : Date
  later : now.wall.date.IsMonthsAfter months date
  wall : LocalTime
  wall_eq : (wall.micros : Int) = date.dayNumber * Duration.day + now.wall.timeOfDay + exact
  utc : LocalTime
  utc_eq : (utc.micros : Int) = wall.micros - now.offset

/-- Whether there is a time so many microseconds after the calendar begins. -/
def OnCalendar (n : Int) : Prop := ∃ t : LocalTime, (t.micros : Int) = n

/-- Whether a shift leaves the calendar: with its year, with the local time that it leads to, or with
this time in UTC. -/
def LeavesCalendar (now : Moment) (months : Int) (exact : Duration) : Prop :=
  let year := now.wall.date.yearAfter months
  (year < Date.firstYear ∨ Date.lastYear < year) ∨
    ∃ d, now.wall.date.IsMonthsAfter months d ∧
      let wall : Int := d.dayNumber * Duration.day + now.wall.timeOfDay + exact
      ¬ OnCalendar wall ∨ ¬ OnCalendar (wall - now.offset)

/-- There is no such shift exactly if the calendar is left. -/
theorem isEmpty_shifted_iff {now : Moment} {months : Int} {exact : Duration} :
    IsEmpty (Shifted now months exact) ↔ LeavesCalendar now months exact := by
  have today : now.wall.date.Valid := Date.valid_ofDayNumber now.wall.dayNumber_lt
  have year : (∃ d, now.wall.date.IsMonthsAfter months d) ↔ _ :=
    Date.exists_isMonthsAfter_iff today
  simp only [LeavesCalendar]
  constructor
  · intro empty
    by_cases inside : ∃ d, now.wall.date.IsMonthsAfter months d
    · obtain ⟨d, later⟩ := inside
      refine .inr ⟨d, later, not_and_or.1 ?_⟩
      rintro ⟨⟨wall, wall_eq⟩, utc, utc_eq⟩
      exact empty.false ⟨d, later, wall, wall_eq, utc, by rw [utc_eq, wall_eq]⟩
    · rw [year] at inside
      omega
  · refine fun off => ⟨fun s => ?_⟩
    rcases off with outside | ⟨d, later, off⟩
    · have inside := year.1 ⟨s.date, s.later⟩
      omega
    · obtain rfl := later.unique s.later
      rcases off with wall | utc
      · exact wall ⟨s.wall, s.wall_eq⟩
      · exact utc ⟨s.utc, by rw [s.utc_eq, s.wall_eq]⟩

namespace Moment

variable {m n u : Moment} {months : Int}

/-- The year and the month that months lead to, without division. -/
theorem shiftedMonth_eq_iff {d : Date} {year : Int} {month : Nat} :
    shiftedMonth d months = (year, month) ↔
      12 * year + month = 12 * d.year + d.month + months ∧ 1 ≤ month ∧ month ≤ 12 := by
  simp only [shiftedMonth, Int.fdiv_eq_ediv_of_nonneg _ (by decide : (0 : Int) ≤ 12),
    Int.fmod_eq_emod_of_nonneg _ (by decide : (0 : Int) ≤ 12), Prod.mk.injEq]
  omega

/-- Months later there is the time with the same clock reading on the day that they lead to. -/
theorem addMonths?_eq_some_iff : m.addMonths? months = some n ↔
    ∃ d, m.wall.date.IsMonthsAfter months d ∧
      ∃ wall : LocalTime, wall.micros = d.dayNumber * Duration.day + m.wall.timeOfDay ∧
        n = m.withWall wall := by
  constructor
  · intro found
    obtain ⟨⟨year, month⟩, shifted⟩ : ∃ p, shiftedMonth m.wall.date months = p := ⟨_, rfl⟩
    obtain ⟨total, first, last⟩ := shiftedMonth_eq_iff.1 shifted
    simp only [addMonths?, shifted] at found
    split at found
    · exact absurd found nofun
    next inside =>
      rw [not_or, Int.not_lt, Int.not_lt] at inside
      obtain ⟨year, rfl⟩ := Int.eq_ofNat_of_zero_le (Int.le_trans (Int.natCast_nonneg _) inside.1)
      obtain ⟨wall, exists_wall, rfl⟩ := Option.map_eq_some_iff.1 found
      rw [Int.toNat_natCast] at exists_wall
      exact ⟨_, Date.isMonthsAfter_min (Date.valid_ofDayNumber m.wall.dayNumber_lt)
        (Int.ofNat_le.1 inside.1) (Int.ofNat_le.1 inside.2) first last total, wall,
        Int.ofNat_inj.1 (LocalTime.micros_of_ofInt? exists_wall), rfl⟩
  · rintro ⟨⟨year, month, day⟩, later, wall, micros, rfl⟩
    have ⟨first, last, month_pos, month_le, _⟩ := later.valid
    have shifted : shiftedMonth m.wall.date months = (↑year, month) :=
      shiftedMonth_eq_iff.2 ⟨later.month, month_pos, month_le⟩
    have inside : ¬ ((year : Int) < Date.firstYear ∨ (Date.lastYear : Int) < year) := by
      simp only [Date.firstYear, Date.lastYear] at first last ⊢
      omega
    simp only [addMonths?, shifted, if_neg inside, Int.toNat_natCast, ← later.day, ← micros,
      LocalTime.ofInt?_micros, Option.map_some]

/-- A shift succeeds if both of its steps do. -/
theorem shift_eq_ok_iff_steps {a : TimeExpr.Amount} : m.shift a = .ok u ↔
    ∃ n, m.addMonths? a.months = some n ∧ ∃ v, n.after? a.exact = some v ∧ v.utc? = some u := by
  unfold shift
  split
  · next none => split <;> simp [none]
  · next n found =>
    simp only [found, Option.some.injEq, exists_eq_left', ← Option.bind_eq_some_iff]
    split
    · next v reached => rw [reached, Option.some.injEq, Except.ok.injEq]
    · next none => simp [none]

theorem after?_eq_some_iff {d : Duration} {v : Moment} : n.after? d = some v ↔
    ∃ wall : LocalTime, (wall.micros : Int) = n.wall.micros + d ∧ v = n.withWall wall := by
  simp only [after?, Option.map_eq_some_iff, LocalTime.ofInt?_eq_some_iff, eq_comm (a := v)]

theorem utc?_eq_some_iff {v : Moment} : v.utc? = some u ↔
    ∃ t : LocalTime, (t.micros : Int) = v.instant ∧ u = ofUtc t := by
  simp only [utc?, Option.map_eq_some_iff, LocalTime.ofInt?_eq_some_iff, eq_comm (a := u)]

/-- The shifts that succeed are those that stay on the calendar. -/
theorem shift_eq_ok_iff {a : TimeExpr.Amount} :
    m.shift a = .ok u ↔ ∃ s : Shifted m a.months a.exact, u = ofUtc s.utc := by
  rw [shift_eq_ok_iff_steps]
  constructor
  · rintro ⟨n, months, v, after, utc⟩
    obtain ⟨d, later, start, clock, rfl⟩ := addMonths?_eq_some_iff.1 months
    obtain ⟨wall, wall_eq, rfl⟩ := after?_eq_some_iff.1 after
    obtain ⟨t, utc_eq, rfl⟩ := utc?_eq_some_iff.1 utc
    refine ⟨⟨d, later, wall, ?_, t, utc_eq⟩, rfl⟩
    rw [wall_eq, withWall, clock, Int.natCast_add, Int.natCast_mul]
  · rintro ⟨s, rfl⟩
    obtain ⟨start, clock⟩ := LocalTime.exists_clock s.later.valid m.wall
    refine ⟨_, addMonths?_eq_some_iff.2 ⟨s.date, s.later, start, clock, rfl⟩, _,
      after?_eq_some_iff.2 ⟨s.wall, ?_, rfl⟩, utc?_eq_some_iff.2 ⟨s.utc, s.utc_eq, rfl⟩⟩
    rw [s.wall_eq, withWall, clock, Int.natCast_add, Int.natCast_mul]

end Moment

end FeedReader
