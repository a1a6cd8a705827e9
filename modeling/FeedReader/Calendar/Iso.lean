import FeedReader.Calendar.Moment
import FeedReader.Text.Digits

/-!
# The standard written form of times

`YYYY-MM-DDTHH:MM:SS[.ffffff]±HH:MM`, where the fraction is left out if it is zero.

* `LocalTime.iso`, `Moment.iso`: writing;
* `LocalTime.readIso?`, `Moment.readIso?`: reading; a time without an offset is one of UTC.
-/

namespace FeedReader

/-! ### Writing -/

/-- A fraction of a second, nothing if it is zero. -/
def isoFraction (micros : Nat) : Text := if micros = 0 then [] else '.' :: Text.padded 6 micros

/-- The date and the clock reading. -/
def LocalTime.iso (t : LocalTime) : Text :=
  let d := t.date
  Text.padded 4 d.year ++ "-" ++ Text.padded 2 d.month ++ "-" ++ Text.padded 2 d.day ++ "T" ++
    Text.padded 2 t.hour ++ ":" ++ Text.padded 2 t.minute ++ ":" ++ Text.padded 2 t.second ++
    isoFraction t.fraction

/-- The offset from UTC; seconds and their fraction are written only if there are any. -/
def isoOffset (offset : Duration) : Text :=
  let n := offset.natAbs
  let seconds := n / Duration.second % 60
  let fraction := n % Duration.second
  (if offset < 0 then '-' else '+') :: Text.padded 2 (n / Duration.hour) ++ ":" ++
    Text.padded 2 (n / Duration.minute % 60) ++
    (if seconds = 0 ∧ fraction = 0 then []
    else ':' :: Text.padded 2 seconds ++ isoFraction fraction)

/-- The time with its offset. -/
def Moment.iso (m : Moment) : Text := m.wall.iso ++ isoOffset m.offset

/-! ### Reading -/

/-- Reads a number of exactly `n` decimal digits. -/
def readNumber? (n : Nat) (t : Text) : Option (Nat × Text) :=
  let digits := t.take n
  if digits.length = n && digits.all Char.isDigit then some (Text.readDigits digits, t.drop n)
  else none

/-- Reads a fraction of a second, of one to six digits, if a point follows. -/
def readFraction? : Text → Option (Nat × Text)
  | '.' :: t =>
    let digits := t.takeWhile Char.isDigit
    if digits.isEmpty || 6 < digits.length then none
    else
      let micros := Text.readDigits digits * Nat.pow 10 (6 - digits.length)
      some (micros, t.dropWhile Char.isDigit)
  | t => some (0, t)

/-- Reads a clock reading `HH:MM[:SS[.ffffff]]` as hours, minutes, seconds and microseconds. -/
def readClock? (t : Text) : Option ((Nat × Nat × Nat × Nat) × Text) := do
  let (hour, t) ← readNumber? 2 t
  let (minute, t) ← (Text.dropPrefix? ":" t).bind (readNumber? 2)
  match t with
  | ':' :: t =>
    let (second, t) ← readNumber? 2 t
    let (micros, t) ← readFraction? t
    some ((hour, minute, second, micros), t)
  | _ => some ((hour, minute, 0, 0), t)

/-- Reads a date and a clock reading. -/
def LocalTime.readIso? (t : Text) : Option (LocalTime × Text) := do
  let (year, t) ← readNumber? 4 t
  let (month, t) ← (Text.dropPrefix? "-" t).bind (readNumber? 2)
  let (day, t) ← (Text.dropPrefix? "-" t).bind (readNumber? 2)
  let t ← Text.dropPrefix? "T" t
  let ((hour, minute, second, micros), t) ← readClock? t
  let time ← ofFields? ⟨year, month, day⟩ hour minute second micros
  some (time, t)

/-- Reads an offset from UTC at the end of a text; no offset is that of UTC. -/
def readOffset? : Text → Option Duration
  | [] => some 0
  | ['Z'] => some 0
  | sign :: t => do
    let ((hour, minute, second, micros), rest) ← readClock? t
    let n : Nat :=
      hour * Duration.hour + minute * Duration.minute + second * Duration.second + micros
    if !rest.isEmpty then none
    else if sign = '+' then some n
    else if sign = '-' then some (-(n : Int))
    else none

/-- Reads a time with its offset. -/
def Moment.readIso? (t : Text) : Option Moment := do
  let (wall, rest) ← LocalTime.readIso? t
  let offset ← readOffset? rest
  if h : offset.natAbs < Duration.day then some ⟨wall, offset, h⟩ else none

end FeedReader
