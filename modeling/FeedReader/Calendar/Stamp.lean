import FeedReader.Calendar.Iso

/-!
# Stored timestamps

A stored timestamp is the time in UTC in a fixed width of 26 characters,
`YYYY-MM-DDTHH:MM:SS.ffffff`, so that timestamps compare as texts like the instants they stand for.

* `LocalTime.stamp`, `Moment.stamp?`, `LocalTime.stamp?`: writing;
* `Moment.ofStamp?`: reading.
-/

namespace FeedReader

/-- The fixed-width form of a local time. -/
def LocalTime.stamp (t : LocalTime) : Text :=
  let d := t.date
  Text.padded 4 d.year ++ "-" ++ Text.padded 2 d.month ++ "-" ++ Text.padded 2 d.day ++ "T" ++
    Text.padded 2 t.hour ++ ":" ++ Text.padded 2 t.minute ++ ":" ++ Text.padded 2 t.second ++ "." ++
    Text.padded 6 t.fraction

/-- The length of a stored timestamp. -/
def stampLength : Nat := 26

theorem LocalTime.length_stamp (t : LocalTime) : t.stamp.length = stampLength := by
  simp [stamp, stampLength]

/-- The stored timestamp of a moment, if its instant is on the calendar of UTC. -/
def Moment.stamp? (m : Moment) : Option Text := m.utc?.map (·.wall.stamp)

/-- The stored timestamp of a time without an offset, which is taken as one of UTC. -/
def LocalTime.stamp? (t : LocalTime) : Option Text := (Moment.ofUtc t).stamp?

/-- Reads a stored timestamp. -/
def Moment.ofStamp? (t : Text) : Option Moment :=
  match LocalTime.readIso? t with
  | some (wall, []) => if t.length = stampLength then some (ofUtc wall) else none
  | _ => none

end FeedReader
