import FeedReader.Calendar.Date
import FeedReader.Text.Basic

/-!
# Times

Durations are counted in microseconds. The offset of a moment from UTC is a constant: it does not
change when the moment is shifted, as it can in a zone with daylight saving time. Moments are compared
by their instants, also those of one zone, whose readings of the clock could be compared instead.

* `LocalTime`: a reading of a calendar and clock, as the microseconds since the calendar begins;
* `Moment`: a local time together with its offset from UTC, which fixes an instant;
* `Moment.instant`, by which moments are compared, and `Moment.utc?`, the same instant on the
  calendar of UTC, if it has one;
* `Moment.after?`, `Moment.addMonths?`: shifting a moment on its own calendar.
-/

namespace FeedReader

/-- A signed length of time in microseconds. -/
abbrev Duration := Int

namespace Duration

/-- The microseconds of a second. -/
def second : Nat := 1000000

/-- The microseconds of a minute. -/
def minute : Nat := 60 * second

/-- The microseconds of an hour. -/
def hour : Nat := 60 * minute

/-- The microseconds of a day. -/
def day : Nat := 24 * hour

end Duration

/-- A reading of calendar and clock, without a place on earth. -/
structure LocalTime where
  micros : Nat
  micros_lt : micros < Date.dayCount * Duration.day
  deriving DecidableEq

namespace LocalTime

/-- The local time so many microseconds after the calendar begins. -/
def ofInt? (n : Int) : Option LocalTime :=
  if h : 0 ≤ n ∧ n.toNat < Date.dayCount * Duration.day then some ⟨n.toNat, h.2⟩ else none

/-- The local time with the given date and clock reading, if they exist. -/
def ofFields? (date : Date) (hour minute second micros : Nat) : Option LocalTime :=
  if date.Valid ∧ hour < 24 ∧ minute < 60 ∧ second < 60 ∧ micros < Duration.second then
    ofInt? (date.dayNumber * Duration.day + hour * Duration.hour + minute * Duration.minute +
      second * Duration.second + micros : Nat)
  else none

/-- The day of the calendar. -/
def dayNumber (t : LocalTime) : Nat := t.micros / Duration.day

/-- The date. -/
def date (t : LocalTime) : Date := Date.ofDayNumber t.dayNumber

/-- The microseconds since midnight. -/
def timeOfDay (t : LocalTime) : Nat := t.micros % Duration.day

/-- The hour of the clock. -/
def hour (t : LocalTime) : Nat := t.timeOfDay / Duration.hour

/-- The minute of the clock. -/
def minute (t : LocalTime) : Nat := t.timeOfDay / Duration.minute % 60

/-- The second of the clock. -/
def second (t : LocalTime) : Nat := t.timeOfDay / Duration.second % 60

/-- The microseconds of the second. -/
def fraction (t : LocalTime) : Nat := t.micros % Duration.second

theorem dayNumber_lt (t : LocalTime) : t.dayNumber < Date.dayCount :=
  (Nat.div_lt_iff_lt_mul (by decide)).2 t.micros_lt

@[simp] theorem ofInt?_micros (t : LocalTime) : ofInt? t.micros = some t := by
  simp [ofInt?, t.micros_lt]

theorem micros_of_ofInt? {n : Int} {t : LocalTime} (h : ofInt? n = some t) :
    (t.micros : Int) = n := by
  unfold ofInt? at h
  split at h
  · next hn =>
    obtain rfl := Option.some.inj h
    exact Int.toNat_of_nonneg hn.1
  · simp at h

end LocalTime

/-- A local time and how far it is ahead of UTC, which is less than a day. -/
structure Moment where
  wall : LocalTime
  offset : Duration
  offset_lt : offset.natAbs < Duration.day
  deriving DecidableEq

namespace Moment

/-- A local time on the calendar of UTC. -/
def ofUtc (t : LocalTime) : Moment := ⟨t, 0, by decide⟩

/-- The instant of a moment, in microseconds since the calendar of UTC begins. -/
def instant (m : Moment) : Int := m.wall.micros - m.offset

@[simp] theorem instant_ofUtc (t : LocalTime) : (ofUtc t).instant = t.micros := by
  simp [instant, ofUtc]

/-- The same instant on the calendar of UTC, if the calendar reaches that far. -/
def utc? (m : Moment) : Option Moment := (LocalTime.ofInt? m.instant).map ofUtc

theorem instant_of_utc? {m u : Moment} (h : m.utc? = some u) : u.instant = m.instant := by
  simp only [utc?, Option.map_eq_some_iff] at h
  obtain ⟨t, ht, rfl⟩ := h
  simp [LocalTime.micros_of_ofInt? ht]

/-- Whether a moment is earlier than another one. -/
def isBefore (a b : Moment) : Bool := a.instant < b.instant

/-- The later of two moments, the first one if they are the same instant. -/
def latest (a b : Moment) : Moment := if a.isBefore b then b else a

/-- The earlier of two moments, the first one if they are the same instant. -/
def earliest (a b : Moment) : Moment := if b.isBefore a then b else a

theorem instant_latest (a b : Moment) : (a.latest b).instant = max a.instant b.instant := by
  by_cases h : a.instant < b.instant <;> simp [latest, isBefore, h] <;> omega

theorem instant_earliest (a b : Moment) : (a.earliest b).instant = min a.instant b.instant := by
  by_cases h : b.instant < a.instant <;> simp [earliest, isBefore, h] <;> omega

/-- The moment with another local time and the same offset. -/
def withWall (m : Moment) (t : LocalTime) : Moment := { m with wall := t }

/-- The moment a duration later, on the same calendar. -/
def after? (m : Moment) (d : Duration) : Option Moment :=
  (LocalTime.ofInt? (m.wall.micros + d)).map m.withWall

theorem instant_of_after? {m u : Moment} {d : Duration} (h : m.after? d = some u) :
    u.instant = m.instant + d := by
  simp only [after?, Option.map_eq_some_iff] at h
  obtain ⟨t, ht, rfl⟩ := h
  have := LocalTime.micros_of_ofInt? ht
  simp only [instant, withWall]
  omega

/-- The year and the month that lie so many months after those of a date. -/
def shiftedMonth (d : Date) (months : Int) : Int × Nat :=
  let total : Int := 12 * d.year + (d.month - 1) + months
  (total.fdiv 12, (total.fmod 12).toNat + 1)

/-- The moment so many months later; the day is kept if the month has it and is the month's last
one otherwise. Nothing if the year is not one of the calendar. -/
def addMonths? (m : Moment) (months : Int) : Option Moment :=
  let date := m.wall.date
  let (year, month) := shiftedMonth date months
  if year < Date.firstYear ∨ Date.lastYear < year then none
  else
    let year := year.toNat
    let shifted : Date := ⟨year, month, min date.day (Date.monthLength year month)⟩
    (LocalTime.ofInt? (shifted.dayNumber * Duration.day + m.wall.timeOfDay : Nat)).map m.withWall

end Moment

end FeedReader
