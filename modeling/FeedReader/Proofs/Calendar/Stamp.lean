import FeedReader.Proofs.Calendar.Shift
import FeedReader.Proofs.Text.Numerals
import Mathlib.Data.List.TakeWhile

/-!
# Stored timestamps embed the order of time

* `Date.ofDayNumber_dayNumber`: a date that exists is the date of its day;
* `LocalTime.exists_fields`: there is a time for every date and clock reading that exist;
* `readNumber?_padded`, `readClock?_padded`, `LocalTime.readIso?_stamp`: reading a timestamp;
* `IsStamp`, `exists_stamp`: the texts that are timestamps;
* `Moment.InCalendar`, `Moment.stamp?_eq_some_iff`, `Moment.stamp?_eq_none_iff`: which moments have
  a timestamp;
* `Moment.stamp_embeds`.
-/

namespace FeedReader

/-! ### The dates of days -/

namespace Date

theorem yearOfDay_eq {n y : Nat} (begun : daysBeforeYear y ≤ n) (next : n < daysBeforeYear (y + 1)) :
    yearOfDay n = y := by
  have first := daysBeforeYear_yearOfDay_le n
  have last := lt_daysBeforeYear_yearOfDay_succ n
  apply Nat.le_antisymm
  · refine Nat.le_of_not_lt fun late => ?_
    have := daysBeforeYear_le (y := y + 1) (z := yearOfDay n) late
    omega
  · refine Nat.le_of_not_lt fun early => ?_
    have := daysBeforeYear_le (y := yearOfDay n + 1) (z := y) early
    omega

theorem daysBeforeMonth_le (year : Nat) {m j : Nat} (h : m ≤ j) (hj : j ≤ 12) :
    daysBeforeMonth year m ≤ daysBeforeMonth year j := by
  induction h with
  | refl => exact Nat.le_refl _
  | @step j h ih =>
    refine Nat.le_trans (ih (by omega)) ?_
    by_cases first : j = 0
    · subst first
      exact Nat.zero_le _
    · rw [daysBeforeMonth_succ year (by omega) (by omega)]
      exact Nat.le_add_right _ _

theorem monthOfDay_eq {year k m : Nat} (last : m ≤ 12)
    (begun : daysBeforeMonth year m ≤ k) (next : k < daysBeforeMonth year (m + 1)) :
    monthOfDay year k = m := by
  have before := daysBeforeMonth_monthOfDay_le year k
  apply Nat.le_antisymm
  · refine Nat.le_of_not_lt fun late => ?_
    have := daysBeforeMonth_le year (m := m + 1) late (monthOfDay_le year k)
    omega
  · refine Nat.le_of_not_lt fun early => ?_
    have : k < daysBeforeMonth year m := lt_daysBeforeMonth (m := 12) early last
    omega

/-- A date that exists is the date of its day. -/
theorem ofDayNumber_dayNumber {d : Date} (h : d.Valid) : ofDayNumber d.dayNumber = d := by
  obtain ⟨year, month, day⟩ := d
  obtain ⟨first, -, month_pos, month_le, day_pos, day_le⟩ := h
  have nextMonth := daysBeforeMonth_succ year month_pos month_le
  have monthEnd := daysBeforeMonth_succ_le year month_le
  have nextYear := daysBeforeYear_succ first
  have inYear : yearOfDay (dayNumber ⟨year, month, day⟩) = year := by
    apply yearOfDay_eq <;> simp only [dayNumber] at * <;> omega
  have inMonth : monthOfDay year (daysBeforeMonth year month + (day - 1)) = month := by
    apply monthOfDay_eq month_le <;> simp only at * <;> omega
  have place : dayNumber ⟨year, month, day⟩ - daysBeforeYear year =
      daysBeforeMonth year month + (day - 1) := by
    simp only [dayNumber]
    omega
  simp only [ofDayNumber, inYear, place, inMonth, mk.injEq, true_and]
  simp only at day_pos
  omega

end Date

/-! ### Times with given fields -/

namespace LocalTime

/-- There is a time for every date and every clock reading that exist. -/
theorem exists_fields {d : Date} {hour minute second micros : Nat} (date : d.Valid)
    (hour_lt : hour < 24) (minute_lt : minute < 60) (second_lt : second < 60)
    (micros_lt : micros < Duration.second) :
    ∃ t : LocalTime, t.date = d ∧ t.hour = hour ∧ t.minute = minute ∧ t.second = second ∧
      t.fraction = micros := by
  have today := Date.dayNumber_lt date
  simp only [Duration.second] at micros_lt
  generalize total : d.dayNumber * Duration.day + hour * Duration.hour +
    minute * Duration.minute + second * Duration.second + micros = n
  simp only [Duration.day, Duration.hour, Duration.minute, Duration.second] at total
  have inside : n < Date.dayCount * Duration.day := by
    simp only [Duration.day, Duration.hour, Duration.minute, Duration.second]
    omega
  have day : n / Duration.day = d.dayNumber := by
    simp only [Duration.day, Duration.hour, Duration.minute, Duration.second]
    omega
  refine ⟨⟨n, inside⟩, ?_, ?_, ?_, ?_, ?_⟩
  · show Date.ofDayNumber (n / Duration.day) = d
    rw [day, Date.ofDayNumber_dayNumber date]
  all_goals
    simp only [LocalTime.hour, LocalTime.minute, LocalTime.second, fraction, timeOfDay,
      Duration.day, Duration.hour, Duration.minute, Duration.second]
    omega

end LocalTime

/-! ### Reading timestamps -/

theorem isDigit_of_mem_numerals {c : Char} (h : c ∈ Text.numerals) : c.isDigit = true := by
  have all : ∀ c ∈ Text.numerals, c.isDigit = true := List.all_iff_forall_prop.1 (by decide)
  exact all c h

/-- A number of a fixed width is read, and what stands behind it is left. -/
theorem readNumber?_padded {width n : Nat} (h : n < 10 ^ width) (u : Text) :
    readNumber? width (Text.padded width n ++ u) = some (n, u) := by
  have digits : (Text.padded width n ++ u).take width = Text.padded width n :=
    List.take_left' (Text.length_padded width n)
  have rest : (Text.padded width n ++ u).drop width = u :=
    List.drop_left' (Text.length_padded width n)
  have all : (Text.padded width n).all Char.isDigit = true :=
    List.all_eq_true.2 fun c hc => isDigit_of_mem_numerals (Text.mem_padded c hc)
  simp only [readNumber?, digits, rest, Text.length_padded, all, Text.readDigits_padded h,
    decide_true, Bool.and_self, if_true]

/-- A fraction of six digits at the end of a text is read. -/
theorem readFraction?_padded {n : Nat} (h : n < 10 ^ 6) :
    readFraction? ('.' :: Text.padded 6 n) = some (n, []) := by
  have all : ∀ c ∈ Text.padded 6 n, c.isDigit = true :=
    fun c hc => isDigit_of_mem_numerals (Text.mem_padded c hc)
  have digits : (Text.padded 6 n).takeWhile Char.isDigit = Text.padded 6 n :=
    List.takeWhile_eq_self_iff.2 all
  have rest : (Text.padded 6 n).dropWhile Char.isDigit = [] := List.dropWhile_eq_nil_iff.2 all
  have length : (Text.padded 6 n).length = 6 := Text.length_padded 6 n
  have nonempty : (Text.padded 6 n).isEmpty = false := by
    rw [List.isEmpty_eq_false_iff]
    exact List.ne_nil_of_length_pos (by omega)
  simp [readFraction?, digits, rest, nonempty, Text.readDigits_padded h]

theorem readClock?_padded {hour minute second micros : Nat} (hour_lt : hour < 10 ^ 2)
    (minute_lt : minute < 10 ^ 2) (second_lt : second < 10 ^ 2) {t u : Text}
    (h : readFraction? t = some (micros, u)) :
    readClock? (Text.padded 2 hour ++ ':' :: (Text.padded 2 minute ++ ':' ::
      (Text.padded 2 second ++ t))) = some ((hour, minute, second, micros), u) := by
  simp [readClock?, readNumber?_padded hour_lt, readNumber?_padded minute_lt,
    readNumber?_padded second_lt, h, Text.dropPrefix?]

namespace LocalTime

/-- A time is read from its date and its clock reading, whose fraction may be left out. -/
theorem readIso?_of_fraction (t : LocalTime) {r u : Text}
    (h : readFraction? r = some (t.fraction, u)) :
    readIso? (Text.padded 4 t.date.year ++ "-" ++ Text.padded 2 t.date.month ++ "-" ++
      Text.padded 2 t.date.day ++ "T" ++ Text.padded 2 t.hour ++ ":" ++ Text.padded 2 t.minute ++
      ":" ++ Text.padded 2 t.second ++ r) = some (t, u) := by
  have year : t.date.year < 10 ^ 4 := Date.year_ofDayNumber_lt t.dayNumber_lt
  have month : t.date.month < 10 ^ 2 := Date.month_ofDayNumber_lt t.dayNumber
  have day : t.date.day < 10 ^ 2 := Date.day_ofDayNumber_lt t.dayNumber_lt
  have hour : t.hour < 10 ^ 2 := Nat.lt_trans t.hour_lt (by decide)
  have minute : t.minute < 10 ^ 2 := Nat.lt_trans t.minute_lt (by decide)
  have second : t.second < 10 ^ 2 := Nat.lt_trans t.second_lt (by decide)
  simp [readIso?, readNumber?_padded year, readNumber?_padded month, readNumber?_padded day,
    Text.dropPrefix?, readClock?_padded hour minute second h, t.ofFields?_fields]

theorem readIso?_stamp (t : LocalTime) : readIso? t.stamp = some (t, []) := by
  have read := t.readIso?_of_fraction (readFraction?_padded t.fraction_lt)
  simpa [stamp] using read

theorem readIso?_iso (t : LocalTime) : readIso? t.iso = some (t, []) := by
  have fraction : readFraction? (isoFraction t.fraction) = some (t.fraction, []) := by
    unfold isoFraction
    split
    · next zero => rw [zero]; rfl
    · exact readFraction?_padded t.fraction_lt
  exact t.readIso?_of_fraction fraction

end LocalTime

/-- A time that is written without an offset is one of UTC. -/
theorem Moment.readIso?_iso (t : LocalTime) : readIso? t.iso = some (ofUtc t) := by
  simp [readIso?, t.readIso?_iso, readOffset?, ofUtc, Duration.day, Duration.hour,
    Duration.minute, Duration.second]

theorem Moment.ofStamp?_stamp (t : LocalTime) : ofStamp? t.stamp = some (ofUtc t) := by
  simp [ofStamp?, t.readIso?_stamp, t.length_stamp]

/-! ### Texts that are timestamps -/

/-- Whether a text is a timestamp: a date and a clock reading that exist, with the numbers of a year
in four digits, of a month, a day, an hour, a minute and a second in two, and of microseconds in
six. -/
def IsStamp (s : Text) : Prop :=
  ∃ (d : Date) (hour minute second micros : Nat), d.Valid ∧ hour < 24 ∧ minute < 60 ∧ second < 60 ∧
    micros < 1000000 ∧
    s = Text.padded 4 d.year ++ "-" ++ Text.padded 2 d.month ++ "-" ++ Text.padded 2 d.day ++ "T" ++
      Text.padded 2 hour ++ ":" ++ Text.padded 2 minute ++ ":" ++ Text.padded 2 second ++ "." ++
      Text.padded 6 micros

theorem exists_stamp {s : Text} (h : IsStamp s) : ∃ t : LocalTime, t.stamp = s := by
  obtain ⟨d, hour, minute, second, micros, date, hour_lt, minute_lt, second_lt, micros_lt, same⟩ := h
  obtain ⟨t, td, th, tm, ts, tf⟩ :=
    LocalTime.exists_fields date hour_lt minute_lt second_lt micros_lt
  refine ⟨t, ?_⟩
  rw [same, LocalTime.stamp, td, th, tm, ts, tf]

theorem LocalTime.isStamp_stamp (t : LocalTime) : IsStamp t.stamp :=
  ⟨t.date, t.hour, t.minute, t.second, t.fraction, Date.valid_ofDayNumber t.dayNumber_lt, t.hour_lt,
    t.minute_lt, t.second_lt, t.fraction_lt, rfl⟩

/-! ### The timestamps of moments -/

namespace Moment

variable {m n : Moment} {s : Text}

/-- Whether an instant lies in the years of the calendar, as UTC counts them. -/
def InCalendar (m : Moment) : Prop :=
  0 ≤ m.instant ∧ m.instant < (Date.dayCount * Duration.day : Nat)

/-- A timestamp is that of the time in UTC. -/
theorem stamp?_eq_some_iff :
    m.stamp? = some s ↔ ∃ t : LocalTime, (t.micros : Int) = m.instant ∧ t.stamp = s := by
  simp only [stamp?, utc?, Option.map_map, Option.map_eq_some_iff, LocalTime.ofInt?_eq_some_iff]
  rfl

theorem stamp?_ofUtc (t : LocalTime) : (ofUtc t).stamp? = some t.stamp :=
  stamp?_eq_some_iff.2 ⟨t, (instant_ofUtc t).symm, rfl⟩

theorem inCalendar_iff : m.InCalendar ↔ ∃ t : LocalTime, (t.micros : Int) = m.instant := by
  constructor
  · rintro ⟨first, last⟩
    exact ⟨⟨m.instant.toNat, by omega⟩, Int.toNat_of_nonneg first⟩
  · rintro ⟨t, same⟩
    have last := t.micros_lt
    constructor <;> omega

/-- A moment has no timestamp exactly if its instant does not lie in the years of the calendar. -/
theorem stamp?_eq_none_iff : m.stamp? = none ↔ ¬ m.InCalendar := by
  rw [inCalendar_iff, Option.eq_none_iff_forall_ne_some]
  constructor
  · rintro none ⟨t, same⟩
    exact none t.stamp (stamp?_eq_some_iff.2 ⟨t, same, rfl⟩)
  · intro outside s found
    obtain ⟨t, same, -⟩ := stamp?_eq_some_iff.1 found
    exact outside ⟨t, same⟩

/-- Timestamps compare as texts like the instants they stand for. -/
theorem compare_stamp? {t : Text} (hm : m.stamp? = some s) (hn : n.stamp? = some t) :
    Text.compare s t = compare m.instant n.instant := by
  obtain ⟨u, hu, rfl⟩ := stamp?_eq_some_iff.1 hm
  obtain ⟨v, hv, rfl⟩ := stamp?_eq_some_iff.1 hn
  rw [LocalTime.compare_stamp, ← hu, ← hv]
  simp [Nat.compare_eq_ite_lt, Int.compare_eq_ite_lt]

/-- Moments in the years of the calendar have timestamps of 26 characters, which are ordered as
texts like their instants, and the same if these are. Reading a timestamp gives the instant in UTC,
and writing it again the same text. Other moments have none. A time without an offset, also one that is
read, is one of UTC, and its timestamp shows it as it stands. -/
theorem stamp_embeds :
    (∀ m : Moment, m.InCalendar → ∃ s, m.stamp? = some s ∧ s.length = 26 ∧ IsStamp s ∧
        ∃ u, ofStamp? s = some u ∧ u.instant = m.instant ∧ u.offset = 0) ∧
      (∀ (m n : Moment) (s t : Text), m.stamp? = some s → n.stamp? = some t →
        (Text.compare s t = .lt ↔ m.instant < n.instant) ∧ (s = t ↔ m.instant = n.instant)) ∧
      (∀ s, IsStamp s → ∃ u, ofStamp? s = some u ∧ u.stamp? = some s) ∧
      (∀ m : Moment, ¬ m.InCalendar → m.stamp? = none) ∧
      ∀ t : LocalTime, t.stamp? = some t.stamp ∧ readIso? t.iso = some (ofUtc t) ∧
        (ofUtc t).stamp? = some t.stamp := by
  refine ⟨fun m inside => ?_, fun m n s t hm hn => ?_, fun s valid => ?_,
    fun m outside => stamp?_eq_none_iff.2 outside, fun t => ⟨?_, readIso?_iso t, ?_⟩⟩
  · obtain ⟨t, same⟩ := inCalendar_iff.1 inside
    refine ⟨t.stamp, stamp?_eq_some_iff.2 ⟨t, same, rfl⟩, t.length_stamp, t.isStamp_stamp,
      ofUtc t, ofStamp?_stamp t, ?_, rfl⟩
    rw [instant_ofUtc, same]
  · have order := compare_stamp? hm hn
    constructor
    · rw [order, Int.compare_eq_lt]
    · have equal : Text.compare s t = .eq ↔ s = t := Std.LawfulEqCmp.compare_eq_iff_eq
      rw [← equal, order, Int.compare_eq_eq]
  · obtain ⟨t, rfl⟩ := exists_stamp valid
    exact ⟨ofUtc t, ofStamp?_stamp t, stamp?_ofUtc t⟩
  · exact stamp?_ofUtc t
  · exact stamp?_ofUtc t

/-- A clock in Central Europe shortly after the end of a leap day, one in UTC a quarter of an hour
later, the same time without an offset, and one that is ahead of UTC when the calendar begins. -/
theorem stamp_embeds_leapDay :
    let m : Moment := ⟨⟨63844849800000000, by decide +kernel⟩, 3600000000, by decide⟩
    let naive : LocalTime := ⟨63844847100000000, by decide +kernel⟩
    let n : Moment := .ofUtc naive
    let early : Moment := ⟨⟨0, by decide⟩, 3600000000, by decide⟩
    let s : Text := "2024-02-29T23:30:00.000000"
    let t : Text := "2024-02-29T23:45:00.000000"
    m.InCalendar ∧ m.stamp? = some s ∧ n.stamp? = some t ∧ IsStamp s ∧ ¬ early.InCalendar ∧
      (∃ s, m.stamp? = some s ∧ s.length = 26 ∧ IsStamp s ∧
        ∃ u, ofStamp? s = some u ∧ u.instant = m.instant ∧ u.offset = 0) ∧
      Text.compare s t = .lt ∧ (∃ u, ofStamp? s = some u ∧ u.stamp? = some s) ∧
      early.stamp? = none ∧ naive.stamp? = some t ∧
      readIso? "2024-02-29T23:45:00" = some (ofUtc naive) := by
  intro m naive n early s t
  have inside : m.InCalendar := ⟨by decide +kernel, by decide +kernel⟩
  have first : m.stamp? = some s := by decide +kernel
  have second : n.stamp? = some t := by decide +kernel
  have valid : IsStamp s :=
    ⟨⟨2024, 2, 29⟩, 23, 30, 0, 0, by decide, by decide, by decide, by decide, by decide, by decide⟩
  have outside : ¬ early.InCalendar := fun inside => absurd inside.1 (by decide)
  obtain ⟨exists_stamp, order, again, none, without⟩ := stamp_embeds
  have shown : naive.stamp = t := by decide +kernel
  have written : naive.iso = "2024-02-29T23:45:00" := by decide +kernel
  exact ⟨inside, first, second, valid, outside, exists_stamp m inside,
    (order m n s t first second).1.2 (by decide), again s valid, none early outside,
    (without naive).1.trans (congrArg some shown), written ▸ (without naive).2.1⟩

end Moment

end FeedReader
