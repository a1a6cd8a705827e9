import FeedReader.Proofs.Calendar.Shift
import FeedReader.Proofs.Result
import FeedReader.Proofs.TimeExpr.Grammar
import FeedReader.TimeExpr
import Mathlib.Algebra.BigOperators.Group.List.Basic

/-!
# Relative times mean the sum of their items

* `IsNumber.read`, `IsItem.read`, `IsItems.read`: what is written is read;
* `exists_of_dropAgo?`, `exists_dropAgo?_items`: the word `ago` is found at the end, and only there;
* `IsRelative.read`: the total of the items is read from the normalized text;
* `shiftOf`: the sum of the items, and `shiftOf_eq`: this total is what is read;
* `read_relative`.
-/

namespace FeedReader.TimeExpr

open Text (isBlank isDigit IsBlanks StartsWord spaced trimStart trimEnd)

variable {t n r : Text} {x : Item} {xs : List Item} {count : Int}

/-! ### Items -/

/-- A text that starts with a digit is read as a number without a sign. -/
theorem readSigned?_of_digits {t ds rest : Text}
    (start : ∀ c ∈ t.head?, isBlank c = false ∧ c ≠ '-' ∧ c ≠ '+') (ne : ds ≠ [])
    (number : t.takeWhile isDigit = ds) (after : t.dropWhile isDigit = rest) :
    readSigned? t = some ((Text.readDigits ds : Int), rest) := by
  have trimmed : trimStart t = t := Text.trimStart_eq_self fun c hc => (start c hc).1
  unfold readSigned?
  split
  next negative unsigned same =>
    split at same
    · exact absurd rfl (start '-' rfl).2.1
    · exact absurd rfl (start '+' rfl).2.2
    · obtain ⟨rfl, rfl⟩ := Prod.mk.inj same
      simp [trimmed, number, after, ne]

/-- A number is read before anything but a digit. -/
theorem IsNumber.read (h : IsNumber n count) (stop : ∀ c ∈ r.head?, isDigit c = false) :
    readSigned? (n ++ r) = some (count, r) := by
  cases h with
  | digits digits =>
    obtain ⟨number, after⟩ := Text.takeWhile_append digits.2 stop
    refine readSigned?_of_digits (fun c hc => ?_) digits.1 number after
    rw [List.head?_append, List.head?_eq_some_head digits.1, Option.some_or] at hc
    obtain rfl := Option.some.inj hc
    have digit := digits.2 _ (List.head_mem digits.1)
    exact ⟨isBlank_of_isDigit digit, ne_of_isDigit digit (by decide),
      ne_of_isDigit digit (by decide)⟩
  | @plus gap ds blanks digits | @minus gap ds blanks digits =>
    obtain ⟨number, after⟩ := Text.takeWhile_append digits.2 stop
    have trimmed : trimStart (gap ++ (ds ++ r)) = ds ++ r := by
      rw [Text.trimStart_append blanks]
      exact Text.trimStart_of_startsWord (digits.starts.startsWord.append r)
    simp [readSigned?, trimmed, number, after, digits.1]

/-- A word is not read as a number. -/
theorem readSigned?_of_word {w : Text} (h : (w, count) ∈ countWords) (r : Text) :
    readSigned? (w ++ r) = none := by
  obtain ⟨ne, letters⟩ := countWord_letters h
  obtain ⟨c, s, rfl⟩ := List.exists_cons_of_ne_nil ne
  have letter := letters c List.mem_cons_self
  obtain ⟨digit, blank, -⟩ := letter_of_isUnitLetter letter
  have minus : c ≠ '-' := by
    rintro rfl
    exact absurd letter (by decide)
  have plus : c ≠ '+' := by
    rintro rfl
    exact absurd letter (by decide)
  simp [readSigned?, minus, plus, trimStart, blank, digit]

/-- A count word is read before a blank. -/
theorem readCountWord?_append {w : Text} (h : (w, count) ∈ countWords) {c : Char}
    (blank : isBlank c = true) (r : Text) : readCountWord? (w ++ c :: r) = some (count, r) := by
  have n : c ≠ 'n' := by
    rintro rfl
    exact absurd blank (by decide)
  simp only [countWords, List.mem_cons, List.not_mem_nil, or_false, Prod.mk.injEq] at h
  rcases h with ⟨rfl, rfl⟩ | ⟨rfl, rfl⟩ | ⟨rfl, rfl⟩ | ⟨rfl, rfl⟩ | ⟨rfl, rfl⟩ <;>
    simp [readCountWord?, countWords, Text.dropPrefix?, blank, n.symm]

/-- A count before a unit is read with it, and so are the separators after the unit. -/
theorem readItem?_of_count {gap word : Text} {unit : TimeUnit} (start : StartsWord t)
    (counted : (readSigned? t).or (readCountWord? t) = some (count, gap ++ (word ++ r)))
    (blanks : IsBlanks gap) (h : TimeUnit.ofText? word = some unit)
    (stop : ∀ c ∈ r.head?, isUnitLetter c = false) :
    readItem? t = some (⟨count, unit⟩, r.dropWhile fun c => c = ' ' || c = ',') := by
  obtain ⟨ne, letters, -⟩ := unit_letters h
  obtain ⟨taken, left⟩ := Text.takeWhile_append letters stop
  have rest : trimStart (gap ++ (word ++ r)) = word ++ r := by
    rw [Text.trimStart_append blanks]
    exact Text.trimStart_of_startsWord ((startsItem_of_letters ne letters).startsWord.append r)
  simp [readItem?, Text.trimStart_of_startsWord start, counted, rest, taken, left, h]

/-- An item is read before anything but a letter, and the separators after it are passed over. -/
theorem IsItem.read (h : IsItem t x) (stop : ∀ c ∈ r.head?, isUnitLetter c = false) :
    readItem? (t ++ r) = some (x, r.dropWhile fun c => c = ' ' || c = ',') := by
  have start : StartsWord (t ++ r) := h.starts.startsWord.append r
  cases h with
  | @number n gap word count unit number blanks named =>
    simp only [List.append_assoc] at start ⊢
    refine readItem?_of_count start ?_ blanks named stop
    rw [number.read, Option.some_or]
    -- neither the gap nor the unit starts with a digit
    obtain ⟨ne, letters, -⟩ := unit_letters named
    obtain ⟨d, u, rfl⟩ := List.exists_cons_of_ne_nil ne
    cases gap with
    | nil =>
      rintro c ⟨⟩
      exact (letter_of_isUnitLetter (letters d List.mem_cons_self)).1
    | cons b gap =>
      rintro c ⟨⟩
      exact isDigit_of_isBlank (blanks b List.mem_cons_self)
  | @word w gap word count unit mem blanks ne named =>
    obtain ⟨b, gap, rfl⟩ := List.exists_cons_of_ne_nil ne
    obtain ⟨blank, blanks⟩ := List.forall_mem_cons.1 blanks
    simp only [List.append_assoc, List.cons_append] at start ⊢
    refine readItem?_of_count start ?_ blanks named stop
    rw [readSigned?_of_word mem, Option.none_or, readCountWord?_append mem blank]

/-- Whether a text has nothing but the separators that are passed over after an item. -/
def IsPassed (t : Text) : Prop := ∀ c ∈ t, c = ' ' ∨ c = ','

theorem IsPassed.noLetter (h : IsPassed t) : ∀ c ∈ t.head?, isUnitLetter c = false := by
  intro c hc
  rcases h c (List.mem_of_mem_head? hc) with rfl | rfl <;> decide

/-- Separators are passed over up to the next item. -/
theorem IsPassed.dropWhile (h : IsPassed t) (next : ∀ c ∈ r.head?, isBlank c = false ∧ c ≠ ',') :
    ((t ++ r).dropWhile fun c => c = ' ' || c = ',') = r := by
  refine (Text.takeWhile_append (fun c hc => by simpa using h c hc) fun c hc => ?_).2
  obtain ⟨blank, comma⟩ := next c hc
  have space : c ≠ ' ' := by
    rintro rfl
    exact absurd blank (by decide)
  simp [space, comma]

theorem readItems?_of_readItem? (read : readItem? t = some (x, r)) (shorter : r.length < t.length)
    (more : readItems? r = some xs) : readItems? t = some (x :: xs) := by
  have ne : ¬ t.isEmpty = true := by
    rintro empty
    simp [List.isEmpty_iff.1 empty] at shorter
  rw [readItems?, if_neg ne, read]
  simp [shorter, more]

/-- All items are read from a text whose gaps are spaces, and so are separators after them. -/
theorem IsItems.read (h : IsItems t xs) (spaces : ∀ c ∈ t, isBlank c = true → c = ' ')
    (passed : IsPassed r) : readItems? (t ++ r) = some xs := by
  induction h with
  | one item =>
    have read := item.read passed.noLetter
    have nothing := passed.dropWhile (r := []) (by simp)
    rw [List.append_nil] at nothing
    rw [nothing] at read
    refine readItems?_of_readItem? read ?_ (by simp [readItems?])
    exact List.length_pos_iff.2 (List.append_ne_nil_of_left_ne_nil item.starts.ne_nil r)
  | @cons t sep s x xs item separators letters rest ih =>
    rw [List.forall_mem_append, List.forall_mem_append] at spaces
    obtain ⟨-, gaps, spaces⟩ := spaces
    have between : IsPassed sep := fun c hc => (separators c hc).imp_left (gaps c hc)
    have stop : ∀ c ∈ (sep ++ (s ++ r)).head?, isUnitLetter c = false := by
      cases sep with
      | nil =>
        obtain ⟨d, u, rfl⟩ := List.exists_cons_of_ne_nil rest.starts.ne_nil
        exact letters rfl
      | cons b sep => exact between.noLetter
    have read := item.read stop
    rw [between.dropWhile (rest.starts.append r).head] at read
    rw [List.append_assoc, List.append_assoc]
    refine readItems?_of_readItem? read ?_ (ih spaces)
    have := List.length_pos_iff.2 item.starts.ne_nil
    simp only [List.length_append]
    omega

/-! ### The word `ago` -/

/-- The word is only found at the end, where blanks around it are dropped with it. -/
theorem exists_of_dropAgo? {before : Text} (h : dropAgo? t = some before) :
    ∃ gap rest, IsBlanks gap ∧ IsBlanks rest ∧ t = before ++ (gap ++ ("ago".toList ++ rest)) := by
  induction t generalizing before with
  | nil => exact absurd h nofun
  | cons c t ih =>
    have later (h : (dropAgo? t).map (c :: ·) = some before) : ∃ gap rest, IsBlanks gap ∧
        IsBlanks rest ∧ c :: t = before ++ (gap ++ ("ago".toList ++ rest)) := by
      obtain ⟨before, found, rfl⟩ := Option.map_eq_some_iff.1 h
      obtain ⟨gap, rest, blanks, blanks', rfl⟩ := ih found
      exact ⟨gap, rest, blanks, blanks', rfl⟩
    unfold dropAgo? at h
    split at h
    · next rest found =>
      split at h
      · next all =>
        obtain rfl := Option.some.inj h
        refine ⟨(c :: t).takeWhile isBlank, rest, fun _ => List.mem_takeWhile_imp,
          List.all_eq_true.1 all, ?_⟩
        rw [List.nil_append, ← Text.dropPrefix?_eq_some_iff.1 found, trimStart,
          List.takeWhile_append_dropWhile]
      · exact later h
    · exact later h

/-- At the end it is found. -/
theorem exists_dropAgo? (t : Text) : ∃ before, dropAgo? (t ++ "ago".toList) = some before := by
  induction t with
  | nil => exact ⟨[], by decide⟩
  | cons c t ih =>
    obtain ⟨before, found⟩ := ih
    rw [List.cons_append]
    unfold dropAgo?
    simp only [found, Option.map_some]
    split
    · split
      · exact ⟨_, rfl⟩
      · exact ⟨_, rfl⟩
    · exact ⟨_, rfl⟩

/-- A text that ends in another way does not end with this word. -/
theorem dropAgo?_eq_none_of_last (h : ∀ c ∈ t.getLast?, isBlank c = false ∧ c ≠ 'o') :
    dropAgo? t = none := by
  refine Option.eq_none_iff_forall_ne_some.2 fun before found => ?_
  obtain ⟨gap, rest, -, blanks, rfl⟩ := exists_of_dropAgo? found
  rw [← List.append_assoc] at h
  by_cases ne : rest = []
  · have last : (before ++ gap ++ ("ago".toList ++ rest)).getLast? = some 'o' := by
      rw [ne, List.append_nil, List.getLast?_append]
      rfl
    exact (h _ last).2 rfl
  · rw [getLast?_append_gap ne] at h
    have last := List.getLast?_eq_some_getLast ne
    exact absurd (h _ last).1 (by simp [blanks _ (List.getLast_mem ne)])

/-- What is left of items before the word is the items, perhaps with separators after them. -/
theorem exists_dropAgo?_items {g : Text} (h : IsItems t xs) (passed : IsPassed g) :
    ∃ g', IsPassed g' ∧ dropAgo? (t ++ (g ++ "ago".toList)) = some (t ++ g') := by
  obtain ⟨before, found⟩ := exists_dropAgo? (t ++ g)
  rw [List.append_assoc] at found
  obtain ⟨gap, rest, blanks, blanks', same⟩ := exists_of_dropAgo? found
  -- the word found is the last one, so that nothing follows it
  obtain rfl : rest = [] := by
    by_contra ne
    have last := congrArg List.getLast? same
    rw [getLast?_append_gap (by decide), ← List.append_assoc, getLast?_append_gap ne,
      List.getLast?_eq_some_getLast ne] at last
    have blank := blanks' _ (List.getLast_mem ne)
    rw [← Option.some.inj last] at blank
    exact absurd blank (by decide)
  rw [List.append_nil, ← List.append_assoc, ← List.append_assoc] at same
  have same := List.append_cancel_right same
  rcases List.append_eq_append_iff.1 same with ⟨g', rfl, rfl⟩ | ⟨c', rfl, rfl⟩
  · exact ⟨g', fun c hc => passed c (List.mem_append_left _ hc), found⟩
  · -- no blank before the word belongs to the items
    obtain rfl : c' = [] := by
      by_contra ne
      have last := h.ends (c'.getLast ne) (by
        rw [List.getLast?_append, List.getLast?_eq_some_getLast ne]
        rfl)
      have letter := (letter_of_isUnitLetter last.1).2.1
      exact absurd letter (by simp [blanks _ (List.mem_append_left _ (List.getLast_mem ne))])
    rw [List.append_nil] at found ⊢
    exact ⟨[], nofun, by rwa [List.append_nil]⟩

/-! ### Relative times -/

/-- The name of a day is no sequence of items. -/
theorem not_items_of_named {a : Amount} (h : named? t = some a) :
    readTotal? t = none ∧ dropAgo? t = none := by
  have alone {w : Text} (ne : w ≠ []) (noItem : readItem? w = none) : readTotal? w = none := by
    rw [readTotal?, readItems?, if_neg (by simpa using ne), noItem]
  unfold named? at h
  split_ifs at h with now yesterday tomorrow
  · simp only [Bool.or_eq_true, decide_eq_true_eq] at now
    rcases now with rfl | rfl
    · exact ⟨alone (by decide) (by decide), by decide⟩
    · exact ⟨alone (by decide) (by decide), by decide⟩
  · rw [yesterday]
    exact ⟨alone (by decide) (by decide), by decide⟩
  · rw [tomorrow]
    exact ⟨alone (by decide) (by decide), by decide⟩

theorem IsItems.readTotal? (h : IsItems t xs) (spaces : ∀ c ∈ t, isBlank c = true → c = ' ')
    (passed : IsPassed r) : readTotal? (t ++ r) = some (total xs) := by
  rw [TimeExpr.readTotal?, h.read spaces passed]
  cases h <;> rfl

/-- The normalized form of a text drops the blanks around it. -/
theorem normalized_eq {b body e : Text} (lowered : Text.lower t = b ++ (body ++ e))
    (before : IsBlanks b) (after : IsBlanks e) (start : StartsWord body) :
    normalized t = spaced body := by
  rw [normalized, Text.words_lower_trim, lowered, Text.words_blanks_append before,
    Text.words_append_blanks after, Text.joinWith_words start]

theorem eq_space_of_mem_spaced {c : Char} (h : c ∈ spaced t) (blank : isBlank c = true) :
    c = ' ' := by
  rcases Text.mem_spaced h with rfl | ⟨letter, -⟩
  · rfl
  · exact absurd (letter.symm.trans blank) nofun

/-- The total of a relative time in any case and with any blanks is read. -/
theorem IsRelative.read {back : Bool} (h : IsRelative (Text.lower t) xs back) :
    readRelative? (normalized t) = some (if back then (total xs).neg else total xs) := by
  generalize lowered : Text.lower t = l at h
  cases h with
  | @ahead b s e _ before items after =>
    rw [normalized_eq lowered before after items.starts.startsWord]
    have spaces : ∀ c ∈ spaced s, isBlank c = true → c = ' ' := fun c => eq_space_of_mem_spaced
    have read := items.spaced.readTotal? spaces (List.forall_mem_nil _)
    rw [List.append_nil] at read
    have noName : named? (spaced s) = none :=
      Option.eq_none_iff_forall_ne_some.2 fun a named =>
        Option.some_ne_none _ (read.symm.trans (not_items_of_named named).1)
    have noAgo : dropAgo? (spaced s) = none := dropAgo?_eq_none_of_last fun c hc =>
      (items.spaced.ends c hc).imp_left fun letter => (letter_of_isUnitLetter letter).2.1
    rw [readRelative?, noName, noAgo]
    exact read
  | @ago b s sep e _ before items seps after =>
    rw [normalized_eq lowered before after (items.starts.append _).startsWord]
    obtain ⟨g, chars, -, same⟩ :=
      Text.exists_spaced_before (t := "ago".toList) sep (by decide : isBlank 'a' = false)
    have form : spaced (s ++ (sep ++ "ago".toList)) = spaced s ++ (g ++ "ago".toList) := by
      rw [Text.spaced_append fun c hc => (letter_of_isUnitLetter (items.ends c hc).1).2.1, same]
      rfl
    have spaces : ∀ c ∈ spaced s ++ (g ++ "ago".toList), isBlank c = true → c = ' ' :=
      form ▸ fun c => eq_space_of_mem_spaced
    rw [List.forall_mem_append, List.forall_mem_append] at spaces
    have passed : IsPassed g := fun c hc =>
      (chars c hc).elim .inl fun mem => (seps c mem).imp_left (spaces.2.1 c hc)
    obtain ⟨g', passed', dropped⟩ := exists_dropAgo?_items items.spaced passed
    have noName : named? (spaced s ++ (g ++ "ago".toList)) = none :=
      Option.eq_none_iff_forall_ne_some.2 fun a named =>
        Option.some_ne_none _ (dropped.symm.trans (not_items_of_named named).2)
    rw [form, readRelative?, noName, dropped]
    simp only [items.spaced.readTotal? spaces.1 passed', Option.map_some, if_true]

/-! ### Their meaning -/

theorem foldl_add (xs : List Item) (a : Amount) :
    xs.foldl (fun a x => a.add x.amount) a =
      ⟨a.months + (xs.map (·.amount.months)).sum, a.exact + (xs.map (·.amount.exact)).sum⟩ := by
  induction xs generalizing a with
  | nil => simp
  | cons x xs ih =>
    rw [List.foldl_cons, ih]
    simp [Amount.add, add_assoc]

/-- Months and exact durations are summed up apart. -/
theorem total_eq (xs : List Item) :
    total xs = ⟨(xs.map (·.amount.months)).sum, (xs.map (·.amount.exact)).sum⟩ := by
  simp [total, foldl_add, Amount.zero]

/-- The shift that items stand for, which goes back if they are ago. -/
def shiftOf (xs : List Item) (back : Bool) : Amount :=
  let sign : Int := if back then -1 else 1
  ⟨sign * (xs.map (·.amount.months)).sum, sign * (xs.map (·.amount.exact)).sum⟩

theorem shiftOf_eq (xs : List Item) (back : Bool) :
    shiftOf xs back = if back then (total xs).neg else total xs := by
  cases back <;> simp [shiftOf, total_eq, Amount.neg]

/-- The order of the items does not matter. -/
theorem shiftOf_perm {xs ys : List Item} (h : xs.Perm ys) (back : Bool) :
    shiftOf xs back = shiftOf ys back := by
  simp only [shiftOf, (h.map _).sum_eq]

theorem readRelative?_nil : readRelative? [] = none := by
  have noName : named? [] = none := by decide
  have noItem : readTotal? [] = none := by simp [readTotal?, readItems?]
  have noAgo : dropAgo? [] = none := rfl
  unfold readRelative?
  simp only [noName, noAgo, noItem]

/-- What a text that is a relative time stands for. -/
theorem read_eq_shift {a : Amount} (h : readRelative? (normalized t) = some a) (now : Moment) :
    read t now = (now.shift a).mapError fun
      | .yearOutOfRange => .yearOutOfRange
      | .timeOutOfRange => .timeOutOfRange t := by
  have ne : ¬ (normalized t).isEmpty = true := by
    intro empty
    rw [List.isEmpty_iff.1 empty, readRelative?_nil] at h
    exact absurd h nofun
  rw [read, if_neg ne, h]
  dsimp only
  cases now.shift a with
  | ok m => rfl
  | error f => cases f <;> rfl

section

variable {back : Bool}

/-- A relative time is the time of `now` shifted by its items. -/
theorem IsRelative.read_eq_ok_iff (h : IsRelative (Text.lower t) xs back) {now u : Moment} :
    TimeExpr.read t now = .ok u ↔ now.shift (shiftOf xs back) = .ok u := by
  rw [read_eq_shift h.read, mapError_eq_ok_iff, shiftOf_eq]

/-- The errors of relative times are those of times outside the calendar. -/
theorem IsRelative.read_eq_error (h : IsRelative (Text.lower t) xs back) {now : Moment} {e : Error}
    (failed : TimeExpr.read t now = .error e) : e = .yearOutOfRange ∨ e = .timeOutOfRange t := by
  rw [read_eq_shift h.read, mapError_eq_error_iff] at failed
  obtain ⟨f, -, rfl⟩ := failed
  cases f with
  | yearOutOfRange => exact .inl rfl
  | timeOutOfRange => exact .inr rfl

/-- A relative time is the time of `now` shifted by the sum of its items, whatever their order, and
there is none exactly if the shift leaves the calendar. -/
theorem read_relative (h : IsRelative (Text.lower t) xs back) (now : Moment) :
    let a := shiftOf xs back
    (∀ u, read t now = .ok u ↔ ∃ s : Shifted now a.months a.exact, u = .ofUtc s.utc) ∧
      ((∃ e, read t now = .error e) ↔ LeavesCalendar now a.months a.exact) ∧
      (∀ e, read t now = .error e → e = .yearOutOfRange ∨ e = .timeOutOfRange t) ∧
      ∀ s ys, IsRelative (Text.lower s) ys back → xs.Perm ys →
        ∀ u, read s now = .ok u ↔ read t now = .ok u := by
  intro a
  have ok (u : Moment) :
      read t now = .ok u ↔ ∃ s : Shifted now a.months a.exact, u = .ofUtc s.utc :=
    h.read_eq_ok_iff.trans Moment.shift_eq_ok_iff
  refine ⟨ok, ?_, fun e => h.read_eq_error, fun s ys written perm u => ?_⟩
  · rw [← isEmpty_shifted_iff]
    cases result : read t now with
    | ok u =>
      obtain ⟨s, -⟩ := (ok u).1 result
      simp [not_isEmpty_iff.2 ⟨s⟩]
    | error e =>
      have none : IsEmpty (Shifted now a.months a.exact) :=
        ⟨fun s => absurd (result.symm.trans ((ok _).2 ⟨s, rfl⟩)) nofun⟩
      simp [none]
  · rw [written.read_eq_ok_iff, h.read_eq_ok_iff, shiftOf_perm perm]

end

/-- A month and an hour before noon on the last day of March, two hours ahead of UTC. -/
theorem read_relative_month :
    let t : Text := "1 Month, an hour AGO"
    let now : Moment := ⟨⟨738975 * Duration.day + 12 * Duration.hour, by decide⟩,
      (2 * Duration.hour : Nat), by decide⟩
    IsRelative (Text.lower t) [⟨1, .month⟩, ⟨1, .hour⟩] true ∧
      read t now = .ok (.ofUtc ⟨738944 * Duration.day + 9 * Duration.hour, by decide⟩) := by
  intro t now
  have blank : IsBlanks [' '] := List.forall_mem_singleton.2 (by decide)
  have month : IsItem (['1'] ++ ([' '] ++ "month".toList)) ⟨1, .month⟩ :=
    .number (.digits ⟨by decide, List.forall_mem_singleton.2 (by decide)⟩) blank (by decide)
  have hour : IsItem ("an".toList ++ ([' '] ++ "hour".toList)) ⟨1, .hour⟩ :=
    .word (by decide) blank (by decide) (by decide)
  have comma : IsSeparators [',', ' '] :=
    List.forall_mem_cons.2 ⟨.inr rfl, List.forall_mem_singleton.2 (.inl (by decide))⟩
  have written : IsRelative (Text.lower t) [⟨1, .month⟩, ⟨1, .hour⟩] true := by
    have form : Text.lower t = [] ++ ((['1'] ++ ([' '] ++ "month".toList)) ++
        ([',', ' '] ++ ("an".toList ++ ([' '] ++ "hour".toList))) ++
        ([' '] ++ "ago".toList) ++ []) := by
      decide +kernel
    rw [form]
    exact .ago nofun (.cons month comma (by decide) (.one hour)) (fun c hc => .inl (blank c hc))
      nofun
  -- February has 29 days in this year
  refine ⟨written, ((read_relative written now).1 _).2 ⟨{
    date := ⟨2024, 2, 29⟩
    later := ⟨by decide, by decide +kernel, by decide +kernel⟩
    wall := ⟨738944 * Duration.day + 11 * Duration.hour, by decide⟩
    wall_eq := by decide +kernel
    utc := ⟨738944 * Duration.day + 9 * Duration.hour, by decide⟩
    utc_eq := by decide +kernel }, rfl⟩⟩

end FeedReader.TimeExpr
