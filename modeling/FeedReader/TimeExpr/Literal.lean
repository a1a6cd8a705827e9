import FeedReader.Calendar.Moment
import FeedReader.Text.Blank
import FeedReader.Text.Digits

/-!
# Written dates and times

`2024-05-01 13:30 +02:00`, `January 31, 2024`, `10:30`: a date, a time of day and an offset from
UTC, in many orders and with parts left out. A text is cut into numbers, names and marks; these are
read from left to right into a draft; and the draft is completed from a given date.

Nothing is taken from the clock and the zone of a machine, though a reader may well do that. What is
left out comes from the date that a given moment has in UTC; a time without an offset is one of UTC,
whatever zone it names; and years of two digits are those from 1976 to 2075, no matter when they are
read.

* `Token`, `tokenize`;
* `monthOf?`, `weekdayOf?`, `isAfternoon?`, `clockUnit?`, `isFiller`: what names and marks can mean;
* `Part`, `Draft`: the numbers of the date in the order read, and the time of day;
* `readNumberToken?`, `readNameToken?`, `readOffsetToken?`, `step?`;
* `DateParts`, `Draft.dateParts?`: which number is the year, the month and the day;
* `readLiteral?`.
-/

namespace FeedReader.TimeExpr.Literal

/-! ### Tokens -/

/-- The pieces of a written time. All blanks are the space mark. -/
inductive Token
  | number (whole : Text) (fraction : Option Text)
  | name (text : Text)
  | mark (c : Char)
  deriving DecidableEq

/-- The kind of characters that a chunk of a text goes on with. -/
inductive ChunkState
  | digits
  | letters
  | dottedDigits
  | dottedLetters

/-- The chunk that goes on after the character `prev`: a run of digits or of letters, in which
points join further runs. A comma counts as the first point after two digits. -/
def chunk (state : ChunkState) (prev : Char) (count : Nat) : Text → Text × Text
  | [] => ([], [])
  | c :: t =>
    let go (next : ChunkState) : Text × Text :=
      let (more, rest) := chunk next c (count + 1) t
      (c :: more, rest)
    let stop : Text × Text := ([], c :: t)
    match state with
    | .digits =>
      if Text.isDigit c then go .digits
      else if c = '.' || c = ',' && 2 ≤ count then go .dottedDigits
      else stop
    | .letters =>
      if c.isAlpha then go .letters else if c = '.' then go .dottedLetters else stop
    | .dottedDigits =>
      if c = '.' || Text.isDigit c then go .dottedDigits
      else if c.isAlpha && prev = '.' then go .dottedLetters
      else stop
    | .dottedLetters =>
      if c = '.' || c.isAlpha then go .dottedLetters
      else if Text.isDigit c && prev = '.' then go .dottedDigits
      else stop

/-- Cuts a chunk at every change between digits, letters and points. -/
def runs (t : Text) : List Token :=
  match t with
  | [] => []
  | c :: rest =>
    if Text.isDigit c then
      .number (c :: rest.takeWhile Text.isDigit) none :: runs (rest.dropWhile Text.isDigit)
    else if c.isAlpha then
      .name (c :: rest.takeWhile Char.isAlpha) :: runs (rest.dropWhile Char.isAlpha)
    else .mark c :: runs rest
termination_by t.length
decreasing_by
  · simp only [List.length_cons]
    have := (List.dropWhile_sublist Text.isDigit (l := rest)).length_le
    omega
  · simp only [List.length_cons]
    have := (List.dropWhile_sublist Char.isAlpha (l := rest)).length_le
    omega
  · simp

/-- The tokens of a chunk: digits with a single point between them are one number. -/
def chunkTokens (t : Text) : List Token :=
  let whole := t.takeWhile Text.isDigit
  match t.dropWhile Text.isDigit with
  | c :: fraction =>
    if (c = '.' || c = ',') && !whole.isEmpty && !fraction.isEmpty && fraction.all Text.isDigit then
      [.number whole (some fraction)]
    else runs t
  | [] => runs t

/-- The tokens of a text. -/
def tokenize (t : Text) : List Token :=
  match t with
  | [] => []
  | c :: rest =>
    if Text.isDigit c || c.isAlpha then
      let (more, after) := chunk (if c.isAlpha then .letters else .digits) c 1 rest
      chunkTokens (c :: more) ++
        if after.length ≤ rest.length then tokenize after else []
    else .mark (if Text.isBlank c then ' ' else c) :: tokenize rest
termination_by t.length

/-- The tokens of a text without its null characters. -/
def tokensOf (t : Text) : List Token := tokenize (t.filter (· != '\x00'))

/-! ### What names mean -/

/-- A name in lower case. -/
def lowered (t : Text) : Text := t.map Char.toLower

/-- Whether a name is one of the words, in any case. -/
def isOneOf (t : Text) (words : List String) : Bool := words.any (·.toList = lowered t)

/-- The number of a month. -/
def monthOf? (t : Text) : Option Nat :=
  let names : List (List String) :=
    [["jan", "january"], ["feb", "february"], ["mar", "march"], ["apr", "april"], ["may"],
      ["jun", "june"], ["jul", "july"], ["aug", "august"], ["sep", "sept", "september"],
      ["oct", "october"], ["nov", "november"], ["dec", "december"]]
  (names.findIdx? (isOneOf t)).map (· + 1)

/-- The number of a weekday, Monday being 0. -/
def weekdayOf? (t : Text) : Option Nat :=
  let names : List (List String) :=
    [["mon", "monday"], ["tue", "tuesday"], ["wed", "wednesday"], ["thu", "thursday"],
      ["fri", "friday"], ["sat", "saturday"], ["sun", "sunday"]]
  names.findIdx? (isOneOf t)

/-- Whether a name marks the second half of the day, if it marks a half. -/
def isAfternoon? (t : Text) : Option Bool :=
  if isOneOf t ["am", "a"] then some false else if isOneOf t ["pm", "p"] then some true else none

/-- The place of a clock unit: hours, minutes, seconds. -/
def clockUnit? (t : Text) : Option Nat :=
  if isOneOf t ["h", "hour", "hours"] then some 0
  else if isOneOf t ["m", "minute", "minutes"] then some 1
  else if isOneOf t ["s", "second", "seconds"] then some 2
  else none

/-- The names of UTC. -/
def isUtcName (t : Text) : Bool :=
  t = "UTC".toList || t = "GMT".toList || t = "Z".toList || t = "z".toList

/-- The names and marks that may stand between the parts. -/
def isFiller : Token → Bool
  | .number .. => false
  | .name t => isOneOf t ["at", "on", "and", "ad", "m", "t", "of", "st", "nd", "rd", "th"]
  | .mark c => c = ' ' || c = '.' || c = ',' || c = ';' || c = '-' || c = '/' || c = '\''

/-- The clock unit that a token names. -/
def tokenUnit? : Token → Option Nat
  | .name t => clockUnit? t
  | _ => none

/-- The half of the day that a token names. -/
def tokenHalf? : Token → Option Bool
  | .name t => isAfternoon? t
  | _ => none

/-- The month that a token names. -/
def tokenMonth? : Token → Option Nat
  | .name t => monthOf? t
  | _ => none

/-! ### The draft -/

/-- What is known about the meaning of a number of the date. -/
inductive Role
  | year
  | month
  | unknown
  deriving DecidableEq

/-- A number of the date. -/
structure Part where
  value : Nat
  role : Role
  deriving DecidableEq

/-- What has been read so far. `century` is set once a year was written in full, `utc` tells whether
a zone name was one of UTC, and `flipped` that a sign after a zone name counts the other way. -/
structure Draft where
  parts : List Part := []
  century : Bool := false
  weekday : Option Nat := none
  hour : Option Nat := none
  minute : Option Nat := none
  second : Option Nat := none
  micros : Option Nat := none
  half : Option Bool := none
  utc : Option Bool := none
  offset : Option Int := none
  flipped : Bool := false

namespace Draft

/-- Whether a part of the date has a role already. -/
def hasRole (d : Draft) (r : Role) : Bool := d.parts.any (·.role = r)

/-- Adds a number of the date; a role can be given once. -/
def push? (d : Draft) (value : Nat) (role : Role) (full : Bool) : Option Draft :=
  let role := if full then .year else role
  if role ≠ .unknown && d.hasRole role then none
  else some { d with parts := d.parts ++ [⟨value, role⟩], century := d.century || full }

/-- Adds digits of the date; more than two are a year. -/
def pushDigits? (d : Draft) (digits : Text) : Option Draft :=
  d.push? (Text.readDigits digits) .unknown (2 < digits.length)

/-- Adds a number of the date; a value beyond 100 is a year. -/
def pushValue? (d : Draft) (value : Nat) (above : Bool) : Option Draft :=
  d.push? value .unknown above

/-- Adds a month given by its name. -/
def pushMonth? (d : Draft) (month : Nat) : Option Draft := d.push? month .month false

/-- The hour on the clock of 24 hours. -/
def fullHour (hour : Nat) (afternoon : Bool) : Nat :=
  if hour < 12 && afternoon then hour + 12 else if hour = 12 && !afternoon then 0 else hour

/-- The greatest day of the month read so far, of a leap year if no year was read. -/
def dayLimit (d : Draft) : Nat :=
  match d.parts.find? (·.role = .month) with
  | none => 31
  | some month =>
    match d.parts.find? (·.role = .year) with
    | none => Date.monthLength 2000 month.value
    | some year => Date.monthLength year.value month.value

end Draft

/-- The first six digits of a fraction, as microseconds. -/
def fractionMicros (fraction : Text) : Nat :=
  let digits := fraction.take 6
  Text.readDigits digits * Nat.pow 10 (6 - digits.length)

/-- The seconds that a fraction of a minute is, rounded down. -/
def fractionSeconds (fraction : Text) : Nat :=
  60 * Text.readDigits fraction / Nat.pow 10 fraction.length

/-- Whether a fraction is not zero. -/
def isPositive (fraction : Option Text) : Bool := fraction.any fun f => Text.readDigits f ≠ 0

/-- Records a number with a clock unit. -/
def Draft.setUnit (d : Draft) (whole : Text) (fraction : Option Text) : Nat → Draft
  | 0 =>
    { d with
      hour := some (Text.readDigits whole)
      minute := if isPositive fraction then fraction.map fractionSeconds else d.minute }
  | 1 =>
    { d with
      minute := some (Text.readDigits whole)
      second := if isPositive fraction then fraction.map fractionSeconds else none }
  | _ =>
    { d with
      second := some (Text.readDigits whole)
      micros := some ((fraction.map fractionMicros).getD 0) }

/-! ### Reading numbers -/

/-- Reads the number after `H:`: minutes, with a fraction that gives seconds, and perhaps the
seconds. -/
def readMinutes? (d : Draft) (hour : Nat) : List Token → Option (Draft × List Token)
  | .number minute fraction :: rest =>
    let d :=
      { d with
        hour := some hour
        minute := some (Text.readDigits minute)
        second := if isPositive fraction then fraction.map fractionSeconds else none }
    match rest with
    | .mark ':' :: .number second fraction :: rest =>
      some ({ d with
        second := some (Text.readDigits second)
        micros := some ((fraction.map fractionMicros).getD 0) }, rest)
    | .mark ':' :: _ :: _ => none
    | _ => some (d, rest)
  | _ => none

/-- Reads what follows a number and a separator in a date: one or two more parts. -/
def readDateRest? (d : Draft) (sep : Token) : List Token → Option (Draft × List Token)
  | [] => some (d, [])
  | token :: rest =>
    if isFiller token then some (d, token :: rest)
    else do
      let d ← readPart? d token
      match rest with
      | [] => some (d, [])
      | next :: rest' =>
        if next ≠ sep then some (d, rest)
        else
          match rest' with
          | [] => none
          | token :: rest'' => (readPart? d token).map (·, rest'')
where
  /-- Reads digits or the name of a month. -/
  readPart? (d : Draft) : Token → Option Draft
    | .number digits none => d.pushDigits? digits
    | token => (tokenMonth? token).bind d.pushMonth?

/-- The number of characters of a number token. -/
def numberLength (whole : Text) (fraction : Option Text) : Nat :=
  whole.length + (fraction.map (·.length + 1)).getD 0

/-- Reads digits that are a date, a time of day or both without any separators. -/
def readCompact? (d : Draft) (whole : Text) (fraction : Option Text) (next : Option Token) :
    Option (Option Draft) :=
  let part (from_ n : Nat) : Nat := Text.readDigits ((whole.drop from_).take n)
  let length := numberLength whole fraction
  let clockFollows := next.any fun t => t = .mark ':' || (tokenUnit? t).isSome
  if d.parts.length = 3 && (length = 2 || length = 4) && d.hour.isNone && !clockFollows then
    if fraction.isSome then some none
    else
      some (some { d with
        hour := some (part 0 2), minute := if length = 4 then some (part 2 2) else d.minute })
  else if whole.length = 6 && (fraction.isSome || length = 6) then
    if d.parts.isEmpty && fraction.isNone then
      some ((d.pushDigits? (whole.take 2)).bind fun d =>
        (d.pushDigits? ((whole.drop 2).take 2)).bind (·.pushDigits? (whole.drop 4)))
    else
      some (some { d with
        hour := some (part 0 2)
        minute := some (part 2 2)
        second := some (part 4 2)
        micros := some ((fraction.map fractionMicros).getD 0) })
  else if length = 6 then some none
  else if length = 8 || length = 12 || length = 14 then
    if fraction.isSome then some none
    else
      some (do
        let d ← d.push? (part 0 4) .year true
        let d ← d.pushDigits? ((whole.drop 4).take 2)
        let d ← d.pushDigits? ((whole.drop 6).take 2)
        some (if length = 8 then d
        else
          { d with
            hour := some (part 8 2)
            minute := some (part 10 2)
            second := if length = 14 then some (part 12 2) else d.second }))
  else none

/-- The clock unit of a number and what is left to read: the unit follows, perhaps after a space, or
it is the one after the unit that stands before. -/
def unitHere? (before : List Token) (rest : List Token) : Option (Nat × List Token) :=
  match rest with
  | .name t :: rest' =>
    match clockUnit? t with
    | some u => some (u, rest')
    | none => unitBefore? before rest
  | .mark ' ' :: .name t :: rest' =>
    match clockUnit? t with
    | some u => some (u, rest')
    | none => unitBefore? before rest
  | _ => unitBefore? before rest
where
  /-- The unit after the one that stands before. -/
  unitBefore? (before rest : List Token) : Option (Nat × List Token) :=
    match before with
    | .name t :: _ => (clockUnit? t).map fun u => (u + 1, rest)
    | .mark ' ' :: .name t :: _ =>
      if rest.isEmpty then (clockUnit? t).map fun u => (u + 1, rest) else none
    | _ => none

/-- Reads a number; `before` holds the tokens before it, the last one first. -/
def readNumberToken? (d : Draft) (before : List Token) (whole : Text) (fraction : Option Text)
    (rest : List Token) : Option (Draft × List Token) :=
  let value := Text.readDigits whole
  match readCompact? d whole fraction rest.head? with
  | some found => found.map (·, rest)
  | none =>
    match unitHere? before rest with
    | some (u, rest') => some (if u ≤ 2 then d.setUnit whole fraction u else d, rest')
    | none =>
      match rest with
      | [] => (pushNumber d value).map (·, [])
      | .mark ':' :: next :: rest' => readMinutes? d value (next :: rest')
      | token :: rest' =>
        if token = .mark '-' || token = .mark '/' || token = .mark '.' then
          if fraction.isSome then none
          else (d.pushDigits? whole).bind (readDateRest? · token rest')
        else if isFiller token then beforeFiller d value rest'
        else
          match tokenHalf? token with
          | some afternoon =>
            if value < 24 then
              some ({ d with hour := some (Draft.fullHour value afternoon) }, rest')
            else asDay d value rest
          | none => asDay d value rest
where
  /-- Adds a number whose value tells whether it is a year. -/
  pushNumber (d : Draft) (value : Nat) : Option Draft :=
    d.pushValue? value (100 < value || value = 100 && isPositive fraction)
  /-- A number before a filler is an hour if half of the day follows, and a part of the date
  otherwise. -/
  beforeFiller (d : Draft) (value : Nat) (rest : List Token) : Option (Draft × List Token) :=
    match rest with
    | token :: rest' =>
      match tokenHalf? token with
      | some afternoon => some ({ d with hour := some (Draft.fullHour value afternoon) }, rest')
      | none => (pushNumber d value).map (·, rest)
    | [] => (pushNumber d value).map (·, rest)
  /-- A number before anything else can only be a day. -/
  asDay (d : Draft) (value : Nat) (rest : List Token) : Option (Draft × List Token) :=
    if 1 ≤ value && (value < d.dayLimit || value = d.dayLimit && !isPositive fraction) then
      (pushNumber d value).map (·, rest)
    else none

/-! ### Reading names and offsets -/

/-- Reads what follows the name of a month: a day and a year after separators, or a year after
`of`. -/
def readMonthRest? (d : Draft) : List Token → Option (Draft × List Token)
  | .mark c :: rest =>
    if c = '-' || c = '/' then
      match rest with
      | .number digits none :: .mark c' :: rest' =>
        if c' = c then
          match rest' with
          | .number digits' none :: rest'' =>
            ((d.pushDigits? digits).bind (·.pushDigits? digits')).map (·, rest'')
          | _ => none
        else (d.pushDigits? digits).map (·, .mark c' :: rest')
      | .number digits none :: rest' => (d.pushDigits? digits).map (·, rest')
      | _ => none
    else
      match c, rest with
      | ' ', .name word :: .mark ' ' :: .number digits none :: rest' =>
        if isOneOf word ["of"] then
          let year := Text.readDigits digits
          (d.push? (if year < 100 then year + 2000 else year) .year true).map (·, rest')
        else some (d, .mark c :: rest)
      | _, _ => some (d, .mark c :: rest)
  | rest => some (d, rest)

/-- Whether a name can be that of a time zone here: after a time of day, once, and in capitals. -/
def mayBeZone (d : Draft) (t : Text) : Bool :=
  d.hour.isSome && d.utc.isNone && d.offset.isNone && t.length ≤ 5 &&
    (t.all Char.isUpper || isUtcName t)

/-- Reads the name of a time zone. A sign right after it counts the other way. -/
def readZone (d : Draft) (t : Text) (rest : List Token) : Draft :=
  match rest with
  | .mark c :: _ =>
    if c = '+' || c = '-' then
      { d with utc := if isUtcName t then none else some false, offset := none, flipped := true }
    else { d with utc := some (isUtcName t), offset := if isUtcName t then some 0 else none }
  | _ => { d with utc := some (isUtcName t), offset := if isUtcName t then some 0 else none }

/-- Reads a name. -/
def readNameToken? (d : Draft) (t : Text) (rest : List Token) : Option (Draft × List Token) :=
  match weekdayOf? t, monthOf? t, isAfternoon? t with
  | some day, _, _ => some ({ d with weekday := some day }, rest)
  | none, some month, _ => (d.pushMonth? month).bind (readMonthRest? · rest)
  | none, none, some afternoon =>
    match d.hour with
    | some hour =>
      if hour ≤ 12 then
        some ({ d with hour := some (Draft.fullHour hour afternoon), half := some afternoon }, rest)
      else none
    | none => none
  | none, none, none =>
    if mayBeZone d t then some (readZone d t rest, rest)
    else if isFiller (.name t) then some (d, rest)
    else none

/-- Reads an offset from UTC after its sign. -/
def readOffsetToken? (d : Draft) (ahead : Bool) (rest : List Token) :
    Option (Draft × List Token) :=
  let set (hours minutes : Nat) (rest : List Token) : Option (Draft × List Token) :=
    let n : Int := hours * 3600 + minutes * 60
    some ({ d with offset := some (if ahead then n else -n), flipped := false }, rest)
  match rest with
  | .number digits none :: rest' =>
    if digits.length = 4 then
      set (Text.readDigits (digits.take 2)) (Text.readDigits (digits.drop 2)) rest'
    else
      match rest' with
      | .mark ':' :: .number minutes none :: rest'' =>
        set (Text.readDigits digits) (Text.readDigits minutes) rest''
      | .mark ':' :: _ => none
      | _ => if digits.length ≤ 2 then set (Text.readDigits digits) 0 rest' else none
  | _ => none

/-- Reads one part of a written time. -/
def step? (d : Draft) (before : List Token) (token : Token) (rest : List Token) :
    Option (Draft × List Token) :=
  match token with
  | .number whole fraction => readNumberToken? d before whole fraction rest
  | .name t => readNameToken? d t rest
  | .mark c =>
    if d.hour.isSome && (c = '+' || c = '-') then
      readOffsetToken? d ((c = '+') != d.flipped) rest
    else if isFiller (.mark c) then some (d, rest)
    else none

/-- Reads all parts. -/
def readParts? (d : Draft) (before : List Token) (tokens : List Token) : Option Draft :=
  match tokens with
  | [] => some d
  | token :: rest =>
    match step? d before token rest with
    | none => none
    | some (d', rest') =>
      if _h : rest'.length < (token :: rest).length then
        let taken := (token :: rest).take ((token :: rest).length - rest'.length)
        readParts? d' (taken.reverse ++ before) rest'
      else none
termination_by tokens.length
decreasing_by exact _h

/-! ### Completing the draft -/

/-- The year, the month and the day, as far as they were written. -/
structure DateParts where
  year : Option Nat := none
  month : Option Nat := none
  day : Option Nat := none

/-- Which of the numbers of the date is which: those with a role first, then by size, with the month
before the day. -/
def Draft.dateParts? (d : Draft) : Option DateParts :=
  match d.parts with
  | [] => some {}
  | [a] =>
    match a.role with
    | .month => some { month := some a.value }
    | .year => some { year := some a.value }
    | .unknown => some (if 31 < a.value then { year := some a.value } else { day := some a.value })
  | [a, b] =>
    match a.role, b.role with
    | .month, .year => some { year := some b.value, month := some a.value }
    | .year, .month => some { year := some a.value, month := some b.value }
    | .month, _ =>
      some (if 31 < b.value then { month := some a.value, year := some b.value }
        else { month := some a.value, day := some b.value })
    | _, .month =>
      some (if 31 < a.value then { month := some b.value, year := some a.value }
        else { month := some b.value, day := some a.value })
    | _, _ =>
      some (if 31 < a.value then { year := some a.value, month := some b.value }
        else if 31 < b.value then { month := some a.value, year := some b.value }
        else { month := some a.value, day := some b.value })
  | [a, b, c] =>
    let ymd (y m d : Part) : Option DateParts := some ⟨some y.value, some m.value, some d.value⟩
    match a.role, b.role, c.role with
    | .year, .month, _ => ymd a b c
    | .year, _, .month => ymd a c b
    | .month, .year, _ => ymd b a c
    | _, .year, .month => ymd b c a
    | .month, _, .year => ymd c a b
    | _, .month, .year => ymd c b a
    | .month, _, _ => if 31 < b.value then ymd b a c else ymd c a b
    | _, .month, _ => if 31 < a.value then ymd a b c else ymd c b a
    | _, _, .month => if 31 < b.value then ymd b c a else ymd a c b
    | _, _, _ =>
      if 31 < a.value || a.role = .year then ymd a b c
      else if 12 < a.value then ymd c b a
      else ymd c a b
  | _ => none

/-- A year written with two digits belongs to the century around the turn of the millennium. -/
def fullYear (century : Bool) (year : Nat) : Nat :=
  if century || 100 ≤ year then year else if year < 76 then 2000 + year else 1900 + year

/-- Whether anything was read. -/
def Draft.isBlank (d : Draft) : Bool :=
  d.parts.isEmpty && d.weekday.isNone && d.hour.isNone && d.minute.isNone && d.second.isNone &&
    d.micros.isNone && d.utc.isNone && d.offset.isNone && d.half.isNone

/-- The offset from UTC in seconds; without one the time is that of UTC. -/
def Draft.zoneOffset (d : Draft) : Int := if d.utc = some true then 0 else d.offset.getD 0

/-- The local time with a date, at midnight so many days later. -/
def onWeekday (t : LocalTime) (weekday : Nat) : Option LocalTime :=
  LocalTime.ofInt? (t.micros + (weekday + 7 - t.dayNumber % 7) % 7 * Duration.day : Nat)

/-- The moment that a draft stands for; what was left out is taken from a date at midnight. A day
left out is the month's last one at most. -/
def Draft.moment? (d : Draft) (base : Date) : Option Moment := do
  let parts ← d.dateParts?
  let year := (parts.year.map (fullYear d.century)).getD base.year
  let month := parts.month.getD base.month
  let day := parts.day.getD (min base.day (Date.monthLength year month))
  let wall ← LocalTime.ofFields? ⟨year, month, day⟩ (d.hour.getD 0) (d.minute.getD 0)
    (d.second.getD 0) (d.micros.getD 0)
  let wall ← match d.weekday with
    | some weekday => if parts.day.any (· ≠ 0) then some wall else onWeekday wall weekday
    | none => some wall
  let offset : Duration := d.zoneOffset * Duration.second
  if h : offset.natAbs < Duration.day then (⟨wall, offset, h⟩ : Moment).utc? else none

/-- Reads a written time, on the calendar of UTC; what was left out is taken from the date of `now`
in UTC. -/
def readLiteral? (t : Text) (now : Moment) : Option Moment := do
  let base ← now.utc?
  let d ← readParts? {} [] (tokensOf (Text.trim t))
  if d.isBlank then none else d.moment? base.wall.date

end FeedReader.TimeExpr.Literal
