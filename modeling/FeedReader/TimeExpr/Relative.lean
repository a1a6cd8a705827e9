import FeedReader.Calendar.Moment
import FeedReader.Text.Blank
import FeedReader.Text.Case
import FeedReader.Text.Digits

/-!
# Relative times

`2 days ago`, `-90 min`, `last month, next week`: a sequence of amounts of time, each a number or a
word such as `a` or `last` before a unit, and `ago` to go back in time.

* `TimeUnit`, `Amount`: months and seconds are counted apart, as months differ in length;
* `normalized`: the text in lower case with single spaces, on which all else works;
* `Item`, `readItem?`, `readItems?`;
* `readRelative?`;
* `Moment.shift`: months first, then the exact duration.
-/

namespace FeedReader

namespace TimeExpr

/-! ### Amounts -/

/-- The units of time. -/
inductive TimeUnit
  | second
  | minute
  | hour
  | day
  | week
  | fortnight
  | month
  | year
  deriving DecidableEq

/-- The unit that a word stands for. -/
def TimeUnit.ofText? (t : Text) : Option TimeUnit :=
  if ["s", "sec", "secs", "second", "seconds"].any (·.toList = t) then some .second
  else if ["min", "mins", "minute", "minutes"].any (·.toList = t) then some .minute
  else if ["h", "hour", "hours"].any (·.toList = t) then some .hour
  else if ["d", "day", "days"].any (·.toList = t) then some .day
  else if ["week", "weeks"].any (·.toList = t) then some .week
  else if ["fortnight", "fortnights"].any (·.toList = t) then some .fortnight
  else if ["month", "months"].any (·.toList = t) then some .month
  else if ["year", "years"].any (·.toList = t) then some .year
  else none

/-- A shift in time: a number of months, and a duration that is applied after them. -/
structure Amount where
  months : Int
  exact : Duration
  deriving DecidableEq

namespace Amount

/-- No shift. -/
def zero : Amount := ⟨0, 0⟩

/-- Two shifts as one. -/
def add (a b : Amount) : Amount := ⟨a.months + b.months, a.exact + b.exact⟩

/-- The shift back. -/
def neg (a : Amount) : Amount := ⟨-a.months, -a.exact⟩

/-- So many of a unit. -/
def ofUnit (n : Int) : TimeUnit → Amount
  | .second => ⟨0, n * Duration.second⟩
  | .minute => ⟨0, n * Duration.minute⟩
  | .hour => ⟨0, n * Duration.hour⟩
  | .day => ⟨0, n * Duration.day⟩
  | .week => ⟨0, n * (7 * Duration.day : Nat)⟩
  | .fortnight => ⟨0, n * (14 * Duration.day : Nat)⟩
  | .month => ⟨n, 0⟩
  | .year => ⟨12 * n, 0⟩

end Amount

/-! ### Reading -/

/-- A text in lower case, with its words separated by single spaces. -/
def normalized (t : Text) : Text :=
  Text.joinWith [' '] (Text.words (Text.lower (Text.trim t)))

/-- A number of units. -/
structure Item where
  count : Int
  unit : TimeUnit
  deriving DecidableEq

/-- The amount of an item. -/
def Item.amount (x : Item) : Amount := Amount.ofUnit x.count x.unit

/-- The letters of unit words. -/
def isUnitLetter (c : Char) : Bool := 'a' ≤ c && c ≤ 'z'

/-- The words that count units, longer ones first. -/
def countWords : List (Text × Int) :=
  [("an", 1), ("a", 1), ("this", 0), ("last", -1), ("next", 1)]

/-- Reads a count word and the blank after it. -/
def readCountWord? (t : Text) : Option (Int × Text) :=
  countWords.findSome? fun (word, n) =>
    match Text.dropPrefix? word t with
    | some (c :: rest) => if Text.isBlank c then some (n, rest) else none
    | _ => none

/-- Reads a number with an optional sign before it. -/
def readSigned? (t : Text) : Option (Int × Text) :=
  let (negative, rest) : Bool × Text := match t with
    | '-' :: rest => (true, rest)
    | '+' :: rest => (false, rest)
    | _ => (false, t)
  let rest := Text.trimStart rest
  let digits := rest.takeWhile Text.isDigit
  if digits.isEmpty then none
  else
    let n : Int := Text.readDigits digits
    some (if negative then -n else n, rest.dropWhile Text.isDigit)

/-- Reads an item and the separators after it. -/
def readItem? (t : Text) : Option (Item × Text) := do
  let t := Text.trimStart t
  let (count, rest) ← (readSigned? t).or (readCountWord? t)
  let rest := Text.trimStart rest
  let unit ← TimeUnit.ofText? (rest.takeWhile isUnitLetter)
  some (⟨count, unit⟩, (rest.dropWhile isUnitLetter).dropWhile fun c => c = ' ' || c = ',')

/-- Reads items through the end of a text. -/
def readItems? (t : Text) : Option (List Item) :=
  if t.isEmpty then some []
  else
    match readItem? t with
    | none => none
    | some (x, rest) => if rest.length < t.length then (readItems? rest).map (x :: ·) else none
termination_by t.length

/-- The total of items. -/
def total (xs : List Item) : Amount := xs.foldl (fun a x => a.add x.amount) .zero

/-- The text before the word `ago` that a text ends with, and before the blanks around it. -/
def dropAgo? : Text → Option Text
  | [] => none
  | c :: t =>
    match Text.dropPrefix? "ago" (Text.trimStart (c :: t)) with
    | some rest => if rest.all Text.isBlank then some [] else (dropAgo? t).map (c :: ·)
    | none => (dropAgo? t).map (c :: ·)

/-- The shift that a named day stands for. -/
def named? (t : Text) : Option Amount :=
  if t = "now".toList || t = "today".toList then some .zero
  else if t = "yesterday".toList then some (.ofUnit (-1) .day)
  else if t = "tomorrow".toList then some (.ofUnit 1 .day)
  else none

/-- Reads a sequence of at least one item. -/
def readTotal? (t : Text) : Option Amount :=
  match readItems? t with
  | none => none
  | some [] => none
  | some (x :: xs) => some (total (x :: xs))

/-- Reads a normalized relative time. -/
def readRelative? (t : Text) : Option Amount :=
  match named? t with
  | some a => some a
  | none =>
    match dropAgo? t with
    | some before => (readTotal? before).map Amount.neg
    | none => readTotal? t

end TimeExpr

/-! ### Shifting -/

/-- Why a shifted time does not exist. -/
inductive ShiftFault
  /-- The year is not one of the calendar. -/
  | yearOutOfRange
  /-- The year is too large to be counted, or the time is before or after the calendar. -/
  | timeOutOfRange
  deriving DecidableEq

namespace Moment

/-- The years that fit a machine word; beyond them a year is not even looked up. -/
def countableYear (year : Int) : Bool := -2147483648 ≤ year && year < 2147483648

/-- The moment shifted by an amount, on the calendar of UTC: by its months, then by its exact
duration. -/
def shift (m : Moment) (a : TimeExpr.Amount) : Except ShiftFault Moment :=
  match m.addMonths? a.months with
  | none =>
    if countableYear (shiftedMonth m.wall.date a.months).1 then .error .yearOutOfRange
    else .error .timeOutOfRange
  | some n =>
    match (n.after? a.exact).bind utc? with
    | some u => .ok u
    | none => .error .timeOutOfRange

end Moment

end FeedReader
