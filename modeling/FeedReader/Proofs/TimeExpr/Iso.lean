import FeedReader.Calendar.Iso
import FeedReader.Proofs.Calendar.Order
import FeedReader.Proofs.Text.Numerals
import FeedReader.Proofs.Text.Words
import FeedReader.Proofs.TimeExpr.Relative

/-!
# Times in their standard form are read as what they are

A time with an offset of whole minutes is written as numbers with marks between them, and reading
these numbers gives back its fields, so that the instant is the same.

* `tokenize_iso`: the tokens of a written time, from `tokenize_number`, `tokenize_fraction`,
  `tokenize_letter` and `tokenize_mark`;
* `step?_date`, `step?_clock`, `step?_offset`, `readParts?_iso`: the fields read from these tokens;
* `moment?_iso`, `readLiteral?_iso`: the moment with these fields;
* `readRelative?_eq_none`: no such time is a relative one;
* `read_iso`.
-/

namespace FeedReader.TimeExpr

open Text (IsNumeral)

/-! ### Tokens -/

namespace Literal

variable {ds fs rest : Text}

/-- Whether a number ends before a text. -/
def EndsNumber (rest : Text) : Prop :=
  ∀ c ∈ rest.head?, Text.isDigit c = false ∧ c ≠ '.' ∧ c ≠ ','

/-- Digits after a point go on to the end of the number. A letter right after the point would be one
of its own chunk, so that there has to be a digit. -/
theorem chunk_dottedDigits (h : ∀ c ∈ fs, c ∈ Text.numerals) (ends : EndsNumber rest) {prev : Char}
    (digit : fs ≠ [] ∨ prev ≠ '.') (count : Nat) :
    chunk .dottedDigits prev count (fs ++ rest) = (fs, rest) := by
  induction fs generalizing prev count with
  | nil =>
    have noPoint : prev ≠ '.' := digit.resolve_left (absurd rfl)
    cases rest with
    | nil => rfl
    | cons c rest =>
      obtain ⟨digit, point, -⟩ := ends c rfl
      simp [chunk, digit, point, noPoint]
  | cons c fs ih =>
    obtain ⟨hc, hfs⟩ := List.forall_mem_cons.1 h
    have noPoint : c ≠ '.' := by
      rintro rfl
      exact absurd hc (by decide)
    simp [chunk, Text.isDigit_of_mem hc, ih hfs (.inr noPoint)]

theorem chunk_digits (h : ∀ c ∈ ds, c ∈ Text.numerals) (ends : EndsNumber rest)
    (prev : Char) (count : Nat) : chunk .digits prev count (ds ++ rest) = (ds, rest) := by
  induction ds generalizing prev count with
  | nil =>
    cases rest with
    | nil => rfl
    | cons c rest =>
      obtain ⟨digit, point, comma⟩ := ends c rfl
      simp [chunk, digit, point, comma]
  | cons c ds ih =>
    obtain ⟨hc, hds⟩ := List.forall_mem_cons.1 h
    simp [chunk, Text.isDigit_of_mem hc, ih hds]

theorem chunk_fraction (h : ∀ c ∈ ds, c ∈ Text.numerals) (hf : IsNumeral fs)
    (ends : EndsNumber rest) (prev : Char) (count : Nat) :
    chunk .digits prev count (ds ++ '.' :: (fs ++ rest)) = (ds ++ '.' :: fs, rest) := by
  have point : Text.isDigit '.' = false := by decide
  induction ds generalizing prev count with
  | nil => simp [chunk, point, chunk_dottedDigits hf.2 ends (.inl hf.1)]
  | cons c ds ih =>
    obtain ⟨hc, hds⟩ := List.forall_mem_cons.1 h
    simp [chunk, Text.isDigit_of_mem hc, ih hds]

/-- A number alone is one token. -/
theorem chunkTokens_number (h : IsNumeral ds) : chunkTokens ds = [.number ds none] := by
  obtain ⟨whole, none⟩ := Text.takeWhile_append (t := []) h.isDigit (by simp)
  obtain ⟨c, s, rfl⟩ := List.exists_cons_of_ne_nil h.1
  rw [List.append_nil] at whole none
  have digit := Text.isDigit_of_mem (h.2 c List.mem_cons_self)
  simp only [chunkTokens, none, runs, digit, if_true]
  rw [List.takeWhile_cons_of_pos digit, List.cons.injEq] at whole
  rw [List.dropWhile_cons_of_pos digit] at none
  rw [whole.2, none, runs]

theorem chunkTokens_fraction (h : IsNumeral ds) (hf : IsNumeral fs) :
    chunkTokens (ds ++ '.' :: fs) = [.number ds (some fs)] := by
  obtain ⟨whole, fraction⟩ := Text.takeWhile_append (t := '.' :: fs) h.isDigit (by simp; decide)
  have digits : fs.all Text.isDigit = true :=
    List.all_eq_true.2 hf.isDigit
  simp [chunkTokens, whole, fraction, digits, h.1, hf.1]

/-- A chunk that starts with a digit, and what comes after it. -/
theorem tokenize_chunk {c : Char} {t more after : Text} (hc : c ∈ Text.numerals)
    (cut : chunk .digits c 1 t = (more, after)) (le : after.length ≤ t.length) :
    tokenize (c :: t) = chunkTokens (c :: more) ++ tokenize after := by
  rw [tokenize]
  simp [Text.isDigit_of_mem hc, Text.isAlpha_of_mem hc, cut, le]

/-- A number before anything that ends it is one token. -/
theorem tokenize_number (h : IsNumeral ds) (ends : EndsNumber rest) :
    tokenize (ds ++ rest) = .number ds none :: tokenize rest := by
  obtain ⟨c, s, rfl⟩ := List.exists_cons_of_ne_nil h.1
  obtain ⟨hc, hs⟩ := List.forall_mem_cons.1 h.2
  rw [List.cons_append, tokenize_chunk hc (chunk_digits hs ends c 1) (by simp),
    chunkTokens_number h, List.singleton_append]

theorem tokenize_fraction (h : IsNumeral ds) (hf : IsNumeral fs) (ends : EndsNumber rest) :
    tokenize (ds ++ '.' :: (fs ++ rest)) = .number ds (some fs) :: tokenize rest := by
  obtain ⟨c, s, rfl⟩ := List.exists_cons_of_ne_nil h.1
  obtain ⟨hc, hs⟩ := List.forall_mem_cons.1 h.2
  rw [List.cons_append, tokenize_chunk hc (chunk_fraction hs hf ends c 1) (by simp; omega),
    ← List.cons_append, chunkTokens_fraction h hf, List.singleton_append]

/-- The letter between a date and a clock reading is a name. -/
theorem tokenize_letter (h : IsNumeral ds) (rest : Text) :
    tokenize ('T' :: (ds ++ rest)) = .name ['T'] :: tokenize (ds ++ rest) := by
  obtain ⟨d, s, rfl⟩ := List.exists_cons_of_ne_nil h.1
  obtain ⟨hd, -⟩ := List.forall_mem_cons.1 h.2
  have noPoint : d ≠ '.' := by
    rintro rfl
    exact absurd hd (by decide)
  have cut : chunk .letters 'T' 1 (d :: s ++ rest) = ([], d :: s ++ rest) := by
    simp [chunk, Text.isAlpha_of_mem hd, noPoint]
  have digit : Text.isDigit 'T' = false := by decide
  have alpha : ('T' : Char).isAlpha = true := by decide
  have alone : chunkTokens ['T'] = [.name ['T']] := by simp [chunkTokens, runs, digit, alpha]
  rw [tokenize]
  simp only [alpha, Bool.or_true, if_true, cut, alone, Nat.le_refl, List.singleton_append]

theorem tokenize_mark {c : Char} (h : c ∈ ['-', '+', ':']) (t : Text) :
    tokenize (c :: t) = .mark c :: tokenize t := by
  have all : ∀ c ∈ ['-', '+', ':'],
      (Text.isDigit c || c.isAlpha) = false ∧ Text.isBlank c = false :=
    List.all_iff_forall_prop.1 (by decide)
  obtain ⟨starts, blank⟩ := all c h
  rw [tokenize, if_neg (by simp [starts]), if_neg (by simp [blank])]

theorem tokenize_last (h : IsNumeral ds) : tokenize ds = [.number ds none] := by
  have alone : tokenize (ds ++ []) = .number ds none :: tokenize [] := tokenize_number h nofun
  rwa [List.append_nil, tokenize] at alone

theorem endsNumber {c : Char} (h : c ∈ ['-', '+', ':', 'T']) (t : Text) :
    EndsNumber (c :: t) := by
  have all : ∀ c ∈ ['-', '+', ':', 'T'], Text.isDigit c = false ∧ c ≠ '.' ∧ c ≠ ',' :=
    List.all_iff_forall_prop.1 (by decide)
  rintro a ⟨⟩
  exact all c h

/-! ### Reading the parts -/

theorem readParts?_of_step {d d' : Draft} {before rest rest' : List Token} {token : Token}
    (h : step? d before token rest = some (d', rest'))
    (lt : rest'.length < (token :: rest).length) :
    readParts? d before (token :: rest) = readParts? d'
      (((token :: rest).take ((token :: rest).length - rest'.length)).reverse ++ before) rest' := by
  rw [readParts?, h]
  simp only [dif_pos lt]

section Steps

variable {y mo da h mi se oh om : Text} {fr : Option Text}

/-- What is known after a date with a year of four digits. -/
def dated (y mo da : Text) : Draft :=
  { parts := [⟨Text.readDigits y, .year⟩, ⟨Text.readDigits mo, .unknown⟩,
      ⟨Text.readDigits da, .unknown⟩]
    century := true }

/-- What is known after a date and a clock reading. -/
def clocked (d : Draft) (h mi se : Text) (fr : Option Text) : Draft :=
  { d with
    hour := some (Text.readDigits h)
    minute := some (Text.readDigits mi)
    second := some (Text.readDigits se)
    micros := some ((fr.map fractionMicros).getD 0) }

/-- What is known after an offset, too. -/
def zoned (d : Draft) (sign : Char) (oh om : Text) : Draft :=
  { d with
    offset := some (if sign = '+' then Text.readDigits oh * 3600 + Text.readDigits om * 60 else
      -(Text.readDigits oh * 3600 + Text.readDigits om * 60 : Int)) }

theorem step?_date (hy : y.length = 4) (hmo : mo.length = 2) (hda : da.length = 2)
    (rest : List Token) :
    step? {} [] (.number y none)
        (.mark '-' :: .number mo none :: .mark '-' :: .number da none :: rest) =
      some (dated y mo da, rest) := by
  simp [step?, readNumberToken?, readCompact?, numberLength, hy, unitHere?, unitHere?.unitBefore?,
    readDateRest?, readDateRest?.readPart?, isFiller, Draft.pushDigits?, Draft.push?, hmo, hda,
    Draft.hasRole, dated]

theorem step?_separator {d : Draft} (hd : d.hour = none) (before rest : List Token) :
    step? d before (.name ['T']) rest = some (d, rest) := by
  have weekday : weekdayOf? ['T'] = none := by decide
  have month : monthOf? ['T'] = none := by decide
  have half : isAfternoon? ['T'] = none := by decide
  have filler : isFiller (.name ['T']) = true := by decide
  simp [step?, readNameToken?, weekday, month, half, filler, mayBeZone, hd]

theorem step?_clock {d : Draft} (hh : h.length = 2) (before rest : List Token) :
    step? d (.name ['T'] :: before) (.number h none)
        (.mark ':' :: .number mi none :: .mark ':' :: .number se fr :: rest) =
      some (clocked d h mi se fr, rest) := by
  have unit : clockUnit? ['T'] = none := by decide
  simp [step?, readNumberToken?, readCompact?, numberLength, hh, unitHere?, unitHere?.unitBefore?,
    unit, readMinutes?, clocked]

theorem step?_offset {d : Draft} (hd : d.hour.isSome) (flipped : d.flipped = false)
    (hoh : oh.length = 2) {sign : Char} (hs : sign = '+' ∨ sign = '-') (before : List Token) :
    step? d before (.mark sign) [.number oh none, .mark ':', .number om none] =
      some (zoned d sign oh om, []) := by
  rcases hs with rfl | rfl <;> simp [step?, hd, readOffsetToken?, hoh, flipped, zoned]

end Steps

/-! ### The standard form -/

variable {m : Moment}

/-- The sign of an offset. -/
def offsetSign (m : Moment) : Char := if m.offset < 0 then '-' else '+'

/-- The hours of an offset. -/
def offsetHours (m : Moment) : Nat := m.offset.natAbs / Duration.hour

/-- The minutes of an offset, beside its hours. -/
def offsetMinutes (m : Moment) : Nat := m.offset.natAbs / Duration.minute % 60

/-- The standard form of a time whose offset is a number of minutes. -/
theorem iso_eq (whole : (Duration.minute : Int) ∣ m.offset) :
    m.iso = Text.padded 4 m.wall.date.year ++ '-' :: (Text.padded 2 m.wall.date.month ++
      '-' :: (Text.padded 2 m.wall.date.day ++ 'T' :: (Text.padded 2 m.wall.hour ++
      ':' :: (Text.padded 2 m.wall.minute ++ ':' :: (Text.padded 2 m.wall.second ++
      (isoFraction m.wall.fraction ++ offsetSign m :: (Text.padded 2 (offsetHours m) ++
      ':' :: Text.padded 2 (offsetMinutes m)))))))) := by
  have minutes : m.offset.natAbs % Duration.minute = 0 :=
    Nat.mod_eq_zero_of_dvd (Int.natCast_dvd.1 whole)
  have fraction : m.offset.natAbs % Duration.second = 0 := by
    simp only [Duration.minute, Duration.second] at *
    omega
  have seconds : m.offset.natAbs / Duration.second % 60 = 0 := by
    simp only [Duration.minute, Duration.second] at *
    omega
  simp [Moment.iso, LocalTime.iso, isoOffset, seconds, fraction, offsetSign, offsetHours,
    offsetMinutes]

/-- The fraction of the seconds of a standard form. -/
def isoMicros? (m : Moment) : Option Text :=
  if m.wall.fraction = 0 then none else some (Text.padded 6 m.wall.fraction)

/-- The tokens of the standard form. -/
def isoTokens (m : Moment) : List Token :=
  [.number (Text.padded 4 m.wall.date.year) none, .mark '-',
    .number (Text.padded 2 m.wall.date.month) none, .mark '-',
    .number (Text.padded 2 m.wall.date.day) none, .name ['T'],
    .number (Text.padded 2 m.wall.hour) none, .mark ':',
    .number (Text.padded 2 m.wall.minute) none, .mark ':',
    .number (Text.padded 2 m.wall.second) (isoMicros? m),
    .mark (offsetSign m), .number (Text.padded 2 (offsetHours m)) none, .mark ':',
    .number (Text.padded 2 (offsetMinutes m)) none]

theorem tokenize_seconds (m : Moment) (ends : EndsNumber rest) :
    tokenize (Text.padded 2 m.wall.second ++ (isoFraction m.wall.fraction ++ rest)) =
      .number (Text.padded 2 m.wall.second) (isoMicros? m) :: tokenize rest := by
  have seconds := Text.isNumeral_padded (by decide : 0 < 2) m.wall.second
  unfold isoFraction isoMicros?
  split
  · exact tokenize_number seconds ends
  · exact tokenize_fraction seconds (Text.isNumeral_padded (by decide) _) ends

theorem tokenize_iso (whole : (Duration.minute : Int) ∣ m.offset) :
    tokenize m.iso = isoTokens m := by
  have two (n : Nat) : IsNumeral (Text.padded 2 n) := Text.isNumeral_padded (by decide) n
  have sign : offsetSign m ∈ ['-', '+', ':', 'T'] ∧ offsetSign m ∈ ['-', '+', ':'] := by
    unfold offsetSign
    split <;> decide
  rw [iso_eq whole,
    tokenize_number (Text.isNumeral_padded (by decide) _) (endsNumber (by decide) _),
    tokenize_mark (by decide), tokenize_number (two _) (endsNumber (by decide) _),
    tokenize_mark (by decide), tokenize_number (two _) (endsNumber (by decide) _),
    tokenize_letter (two _), tokenize_number (two _) (endsNumber (by decide) _),
    tokenize_mark (by decide), tokenize_number (two _) (endsNumber (by decide) _),
    tokenize_mark (by decide), tokenize_seconds m (endsNumber sign.1 _), tokenize_mark sign.2,
    tokenize_number (two _) (endsNumber (by decide) _), tokenize_mark (by decide),
    tokenize_last (two _)]
  rfl

/-- What is known after all parts of the standard form. -/
def isoDraft (m : Moment) : Draft :=
  { parts := [⟨m.wall.date.year, .year⟩, ⟨m.wall.date.month, .unknown⟩,
      ⟨m.wall.date.day, .unknown⟩]
    century := true
    hour := some m.wall.hour
    minute := some m.wall.minute
    second := some m.wall.second
    micros := some m.wall.fraction
    offset := some (m.offset / Duration.second) }

/-- The hours and minutes of an offset make it up. -/
theorem offset_seconds (whole : (Duration.minute : Int) ∣ m.offset) :
    (if offsetSign m = '+' then (offsetHours m * 3600 + offsetMinutes m * 60 : Int)
      else -(offsetHours m * 3600 + offsetMinutes m * 60)) = m.offset / Duration.second := by
  obtain ⟨k, hk⟩ := whole
  have total : offsetHours m * 3600 + offsetMinutes m * 60 = 60 * k.natAbs := by
    unfold offsetHours offsetMinutes
    rw [hk, Int.natAbs_mul]
    simp only [Duration.hour, Duration.minute, Duration.second, Int.natAbs_natCast]
    omega
  have units (n : Int) (hn : n = 60000000 * k) : (n < 0 ↔ k < 0) ∧ n / 1000000 = 60 * k := by
    omega
  obtain ⟨behind, seconds⟩ := units m.offset hk
  rw [show m.offset / Duration.second = 60 * k from seconds, offsetSign]
  simp only [behind]
  by_cases negative : k < 0
  · rw [if_pos negative, if_neg (by decide)]
    omega
  · rw [if_neg negative, if_pos rfl]
    omega

theorem offsetHours_lt (m : Moment) : offsetHours m < 10 ^ 2 := by
  have := m.offset_lt
  simp only [offsetHours, Duration.day, Duration.hour, Duration.minute, Duration.second] at *
  omega

theorem offsetMinutes_lt (m : Moment) : offsetMinutes m < 10 ^ 2 :=
  Nat.lt_trans (Nat.mod_lt _ (by decide)) (by decide)

theorem fractionMicros_isoMicros? (m : Moment) :
    ((isoMicros? m).map fractionMicros).getD 0 = m.wall.fraction := by
  unfold isoMicros?
  split
  · next zero => exact zero.symm
  · have six : (Text.padded 6 m.wall.fraction).take 6 = Text.padded 6 m.wall.fraction :=
      List.take_of_length_le (by simp)
    simp [fractionMicros, six, Text.readDigits_padded m.wall.fraction_lt]

theorem readParts?_iso (whole : (Duration.minute : Int) ∣ m.offset) :
    readParts? {} [] (isoTokens m) = some (isoDraft m) := by
  have size (n : Nat) : (Text.padded 2 n).length = 2 := Text.length_padded 2 n
  have date := step?_date (Text.length_padded 4 m.wall.date.year) (size m.wall.date.month)
    (size m.wall.date.day)
  have sign : offsetSign m = '+' ∨ offsetSign m = '-' := by
    unfold offsetSign
    split
    · exact .inr rfl
    · exact .inl rfl
  unfold isoTokens
  rw [readParts?_of_step (date _) (by simp), readParts?_of_step (step?_separator rfl _ _) (by simp)]
  simp only [List.length_cons, List.length_nil, Nat.reduceAdd, Nat.reduceSub, List.take_succ_cons,
    List.take_zero, List.reverse_cons, List.reverse_nil, List.nil_append, List.cons_append]
  rw [readParts?_of_step (step?_clock (size _) _ _) (by simp),
    readParts?_of_step (step?_offset rfl rfl (size _) sign _) (by simp), readParts?]
  -- what is left is that the numbers are read as what they are
  have two {n k : Nat} (hk : k ≤ 100) (h : n < k) : Text.readDigits (Text.padded 2 n) = n :=
    Text.readDigits_padded (Nat.lt_of_lt_of_le h hk)
  have year : Text.readDigits (Text.padded 4 m.wall.date.year) = m.wall.date.year :=
    Text.readDigits_padded (Date.year_ofDayNumber_lt m.wall.dayNumber_lt)
  have month : Text.readDigits (Text.padded 2 m.wall.date.month) = m.wall.date.month :=
    Text.readDigits_padded (Date.month_ofDayNumber_lt _)
  have day : Text.readDigits (Text.padded 2 m.wall.date.day) = m.wall.date.day :=
    Text.readDigits_padded (Date.day_ofDayNumber_lt m.wall.dayNumber_lt)
  simp only [zoned, clocked, dated, year, month, day, two (by decide) m.wall.hour_lt,
    two (by decide) m.wall.minute_lt, two (by decide) m.wall.second_lt,
    two (by decide) (offsetHours_lt m), two (by decide) (offsetMinutes_lt m),
    fractionMicros_isoMicros?, offset_seconds whole]
  rfl

theorem moment?_iso (whole : (Duration.minute : Int) ∣ m.offset) (base : Date) :
    (isoDraft m).moment? base = m.utc? := by
  have parts : (isoDraft m).dateParts? =
      some ⟨some m.wall.date.year, some m.wall.date.month, some m.wall.date.day⟩ := by
    simp [Draft.dateParts?, isoDraft]
  have offset : (isoDraft m).zoneOffset * Duration.second = m.offset :=
    Int.ediv_mul_cancel (Int.dvd_trans (by decide) whole)
  have clock : LocalTime.ofFields? m.wall.date ((isoDraft m).hour.getD 0)
      ((isoDraft m).minute.getD 0) ((isoDraft m).second.getD 0) ((isoDraft m).micros.getD 0) =
      some m.wall := m.wall.ofFields?_fields
  simp only [Draft.moment?, parts, Option.bind_eq_bind, Option.bind_some, Option.map_some,
    Option.getD_some]
  rw [show fullYear (isoDraft m).century m.wall.date.year = m.wall.date.year from rfl, clock]
  simp only [Option.bind_some, show (isoDraft m).weekday = none from rfl, offset]
  exact dif_pos m.offset_lt

/-- The characters of standard forms. -/
def isoChars : Text := ['-', '+', ':', '.', 'T'] ++ Text.numerals

theorem mem_iso (whole : (Duration.minute : Int) ∣ m.offset) : ∀ c ∈ m.iso, c ∈ isoChars := by
  have number (width n : Nat) : ∀ c ∈ Text.padded width n, c ∈ isoChars :=
    fun c hc => List.mem_append_right _ (Text.mem_padded c hc)
  have sign : offsetSign m ∈ isoChars := by
    unfold offsetSign
    split <;> decide
  have fraction : ∀ c ∈ isoFraction m.wall.fraction, c ∈ isoChars := by
    unfold isoFraction
    split
    · exact List.forall_mem_nil _
    · exact List.forall_mem_cons.2 ⟨by decide, number _ _⟩
  have mark : '-' ∈ isoChars ∧ ':' ∈ isoChars ∧ 'T' ∈ isoChars := by decide
  rw [iso_eq whole]
  simp only [List.forall_mem_append, List.forall_mem_cons]
  exact ⟨number _ _, mark.1, number _ _, mark.1, number _ _, mark.2.2, number _ _, mark.2.1,
    number _ _, mark.2.1, number _ _, fraction, sign, number _ _, mark.2.1, number _ _⟩

theorem isWord_iso (whole : (Duration.minute : Int) ∣ m.offset) : Text.IsWord m.iso := by
  have blanks : ∀ c ∈ isoChars, Text.isBlank c = false :=
    List.all_iff_forall_prop.1 (by decide)
  refine ⟨?_, fun c hc => blanks c (mem_iso whole c hc)⟩
  rw [iso_eq whole]
  simp

/-- The standard form of a time is read as that time. -/
theorem readLiteral?_iso (whole : (Duration.minute : Int) ∣ m.offset) {now : Moment}
    (clock : now.utc?.isSome) : readLiteral? m.iso now = m.utc? := by
  obtain ⟨base, hbase⟩ := Option.isSome_iff_exists.1 clock
  have tokens : tokensOf (Text.trim m.iso) = isoTokens m := by
    have null : ∀ c ∈ isoChars, (c != '\x00') = true :=
      List.all_iff_forall_prop.1 (by decide)
    rw [Text.trim_eq_self (isWord_iso whole).isLine.trimmed, tokensOf,
      List.filter_eq_self.2 fun c hc => null c (mem_iso whole c hc), tokenize_iso whole]
  have blank : (isoDraft m).isBlank = false := rfl
  simp [readLiteral?, hbase, tokens, readParts?_iso whole, blank, moment?_iso whole]

end Literal

/-! ### No relative times -/

theorem dropAgo?_eq_none {t : Text} (h : 'a' ∉ t) : dropAgo? t = none := by
  refine Option.eq_none_iff_forall_ne_some.2 fun before found => ?_
  obtain ⟨gap, rest, -, -, rfl⟩ := exists_of_dropAgo? found
  simp at h

/-- A number before a minus sign counts no unit. -/
theorem readItem?_eq_none {ds : Text} (h : Text.IsNumeral ds) (rest : Text) :
    readItem? (ds ++ '-' :: rest) = none := by
  have plain : ∀ c ∈ Text.numerals, Text.isBlank c = false ∧ c ≠ '-' ∧ c ≠ '+' :=
    List.all_iff_forall_prop.1 (by decide)
  have start : ∀ c ∈ (ds ++ '-' :: rest).head?, Text.isBlank c = false ∧ c ≠ '-' ∧ c ≠ '+' := by
    intro c hc
    rw [List.head?_append, List.head?_eq_some_head h.1, Option.some_or,
      ← List.head?_eq_some_head] at hc
    exact plain c (h.2 c (List.mem_of_mem_head? hc))
  obtain ⟨number, after⟩ := Text.takeWhile_append (t := '-' :: rest) h.isDigit (by simp; decide)
  have signed := readSigned?_of_digits start h.1 number after
  have trimmed := Text.trimStart_eq_self fun c hc => (start c hc).1
  -- there is no letter of a unit behind the number
  have mark : Text.trimStart ('-' :: rest) = '-' :: rest := Text.trimStart_eq_self (by simp; decide)
  have letters : ('-' :: rest).takeWhile isUnitLetter = [] :=
    List.takeWhile_cons_of_neg (by decide)
  have unit : TimeUnit.ofText? [] = none := by decide
  rw [readItem?, trimmed, signed]
  simp [mark, letters, unit]

/-- A number before a minus sign is no relative time, as long as nothing is ago. -/
theorem readRelative?_eq_none {ds rest : Text} (h : Text.IsNumeral ds) (noAgo : 'a' ∉ rest) :
    readRelative? (ds ++ '-' :: rest) = none := by
  have ago : 'a' ∉ ds ++ '-' :: rest := by
    rw [List.mem_append, List.mem_cons, not_or, not_or]
    exact ⟨fun ha => absurd (h.2 'a' ha) (by decide), by decide, noAgo⟩
  have total : readTotal? (ds ++ '-' :: rest) = none := by
    rw [readTotal?, readItems?, if_neg (by simp), readItem?_eq_none h]
  have named : named? (ds ++ '-' :: rest) = none := by
    -- no name of a day has the sign in it
    have other (w : Text) (hw : '-' ∉ w) : ds ++ '-' :: rest ≠ w := by
      rintro rfl
      simp at hw
    simp only [named?, other "now".toList (by decide), other "today".toList (by decide),
      other "yesterday".toList (by decide), other "tomorrow".toList (by decide), decide_false,
      Bool.or_self, Bool.false_eq_true, if_false]
  rw [readRelative?, named, dropAgo?_eq_none ago]
  exact total

/-- A character of a standard form in lower case. -/
def lowerIso (c : Char) : Char := if c = 'T' then 't' else c

theorem lower_eq_map {t : Text} (h : ∀ c ∈ t, c ∈ Literal.isoChars) :
    Text.lower t = t.map lowerIso := by
  have all : ∀ c ∈ Literal.isoChars, c ≠ 'Σ' ∧ Text.lowerChar c = [lowerIso c] :=
    List.all_iff_forall_prop.1 (by decide)
  suffices from_start : ∀ before, Text.lowerAfter before t = t.map lowerIso from from_start false
  induction t with
  | nil => exact fun _ => rfl
  | cons c t ih =>
    obtain ⟨hc, ht⟩ := List.forall_mem_cons.1 h
    obtain ⟨sigma, lower⟩ := all c hc
    intro before
    rw [Text.lowerAfter, if_neg sigma, lower, ih ht]
    rfl

/-- The standard form of a time is normalized by lowering its letter. -/
theorem normalized_iso {m : Moment} (whole : (Duration.minute : Int) ∣ m.offset) :
    ∃ rest, 'a' ∉ rest ∧
      normalized m.iso = Text.padded 4 m.wall.date.year ++ '-' :: rest := by
  have chars := Literal.mem_iso whole
  have lowered : ∀ c ∈ Literal.isoChars, Text.isBlank (lowerIso c) = false ∧ lowerIso c ≠ 'a' :=
    List.all_iff_forall_prop.1 (by decide)
  have word : Text.IsWord (m.iso.map lowerIso) := by
    refine ⟨by simpa using (Literal.isWord_iso whole).1, ?_⟩
    simp only [List.forall_mem_map]
    exact fun c hc => (lowered c (chars c hc)).1
  have form : normalized m.iso = m.iso.map lowerIso := by
    rw [normalized, Text.trim_eq_self (Literal.isWord_iso whole).isLine.trimmed,
      lower_eq_map chars, Text.words_of_isWord word]
    simp [Text.joinWith]
  have number : (Text.padded 4 m.wall.date.year).map lowerIso = Text.padded 4 m.wall.date.year := by
    have same : ∀ c ∈ Text.numerals, lowerIso c = c :=
      List.all_iff_forall_prop.1 (by decide)
    exact (List.map_congr_left fun c hc => same c (Text.mem_padded c hc)).trans (List.map_id _)
  obtain ⟨rest, hrest⟩ : ∃ rest, m.iso = Text.padded 4 m.wall.date.year ++ '-' :: rest :=
    ⟨_, Literal.iso_eq whole⟩
  refine ⟨rest.map lowerIso, fun mem => ?_, ?_⟩
  · obtain ⟨c, hc, same⟩ := List.mem_map.1 mem
    refine (lowered c (chars c ?_)).2 same
    rw [hrest]
    exact List.mem_append_right _ (List.mem_cons_of_mem _ hc)
  · rw [form, hrest, List.map_append, number]
    rfl

/-- A time expression in the standard form of a time that the calendar of UTC reaches stands for
that time. -/
theorem read_iso {m now u : Moment} (whole : (Duration.minute : Int) ∣ m.offset)
    (clock : now.utc?.isSome) (h : m.utc? = some u) : read m.iso now = .ok u := by
  obtain ⟨rest, noAgo, form⟩ := normalized_iso whole
  have number := Text.isNumeral_padded (by decide : 0 < 4) m.wall.date.year
  rw [read, form, readRelative?_eq_none number noAgo, if_neg (by simp),
    Literal.readLiteral?_iso whole clock, h]

end FeedReader.TimeExpr
