import FeedReader.Proofs.Text.Spacing
import FeedReader.TimeExpr.Relative
import Mathlib.Data.Bool.AllAny

/-!
# How relative times are written

A relative time in lower case is a sequence of items with blanks and commas between them. An item is
a number or a count word before a unit, and blanks may stand around all of these.

* `IsNumber`, `IsItem`, `IsItems`, `IsRelative`: the grammar, with what is written;
* `IsItems.starts`, `IsItems.ends`: items start with neither a blank nor a comma, and end with a
  letter;
* `IsItems.spaced`: with a single space for each gap the same items are written.
-/

namespace FeedReader.TimeExpr

open Text (isBlank isDigit IsBlanks StartsWord spaced)

/-! ### Characters -/

theorem isBlank_of_isDigit {c : Char} (h : isDigit c = true) : isBlank c = false := by
  have blanks : ∀ n ∈ Text.blankCodes, Text.decimalDigits.startOf? n = none := by decide +kernel
  cases blank : isBlank c with
  | false => rfl
  | true =>
    rw [isDigit, Text.digitValue?, blanks _ (Text.mem_blankCodes blank)] at h
    exact h.symm

theorem isDigit_of_isBlank {c : Char} (h : isBlank c = true) : isDigit c = false := by
  cases digit : isDigit c with
  | false => rfl
  | true => exact (isBlank_of_isDigit digit).symm.trans h |>.symm

theorem ne_of_isDigit {c d : Char} (h : isDigit c = true) (other : isDigit d = false) : c ≠ d := by
  rintro rfl
  exact absurd (h.symm.trans other) nofun

/-- A letter of a unit is no digit, no blank and no mark. -/
theorem letter_of_isUnitLetter {c : Char} (h : isUnitLetter c = true) :
    isDigit c = false ∧ isBlank c = false ∧ c ≠ ',' := by
  have all : ∀ n < 123, 97 ≤ n → isDigit (Char.ofNat n) = false ∧ isBlank (Char.ofNat n) = false ∧
      Char.ofNat n ≠ ',' := by
    decide +kernel
  simp only [isUnitLetter, Bool.and_eq_true, decide_eq_true_eq, Char.le_def,
    UInt32.le_iff_toNat_le] at h
  simpa using all c.toNat (Nat.lt_succ_of_le h.2) h.1

/-! ### The grammar -/

/-- Whether a text is a run of digits. -/
def IsDigits (t : Text) : Prop := t ≠ [] ∧ ∀ c ∈ t, isDigit c = true

/-- Whether a text has nothing but blanks and commas. -/
def IsSeparators (t : Text) : Prop := ∀ c ∈ t, isBlank c = true ∨ c = ','

/-- The written forms of a number: digits, perhaps after a sign. -/
inductive IsNumber : Text → Int → Prop
  | digits {ds : Text} : IsDigits ds → IsNumber ds (Text.readDigits ds)
  | plus {gap ds : Text} : IsBlanks gap → IsDigits ds →
      IsNumber ('+' :: (gap ++ ds)) (Text.readDigits ds)
  | minus {gap ds : Text} : IsBlanks gap → IsDigits ds →
      IsNumber ('-' :: (gap ++ ds)) (-(Text.readDigits ds : Int))

/-- The written forms of an item: a number, or a count word and a gap, before a unit. -/
inductive IsItem : Text → Item → Prop
  | number {n gap word : Text} {count : Int} {unit : TimeUnit} : IsNumber n count →
      IsBlanks gap → TimeUnit.ofText? word = some unit → IsItem (n ++ (gap ++ word)) ⟨count, unit⟩
  | word {w gap word : Text} {count : Int} {unit : TimeUnit} : (w, count) ∈ countWords →
      IsBlanks gap → gap ≠ [] → TimeUnit.ofText? word = some unit →
      IsItem (w ++ (gap ++ word)) ⟨count, unit⟩

/-- The written forms of items one after the other. Separators may only be missing where a number
follows, so that no letters run together. -/
inductive IsItems : Text → List Item → Prop
  | one {t : Text} {x : Item} : IsItem t x → IsItems t [x]
  | cons {t sep s : Text} {x : Item} {xs : List Item} : IsItem t x → IsSeparators sep →
      (sep = [] → ∀ c ∈ s.head?, isUnitLetter c = false) → IsItems s xs →
      IsItems (t ++ (sep ++ s)) (x :: xs)

/-- The written forms of a relative time: items, and for the time before now the word `ago`. -/
inductive IsRelative : Text → List Item → Bool → Prop
  | ahead {b t e : Text} {xs : List Item} : IsBlanks b → IsItems t xs → IsBlanks e →
      IsRelative (b ++ (t ++ e)) xs false
  | ago {b t sep e : Text} {xs : List Item} : IsBlanks b → IsItems t xs → IsSeparators sep →
      IsBlanks e → IsRelative (b ++ (t ++ (sep ++ "ago".toList) ++ e)) xs true

/-! ### Starts and ends -/

/-- The words for units. -/
def unitWords : List Text :=
  ["s", "sec", "secs", "second", "seconds", "min", "mins", "minute", "minutes", "h", "hour",
    "hours", "d", "day", "days", "week", "weeks", "fortnight", "fortnights", "month", "months",
    "year", "years"]

theorem mem_unitWords {t : Text} {unit : TimeUnit} (h : TimeUnit.ofText? t = some unit) :
    t ∈ unitWords := by
  have among (ws : List String) (found : ws.any (·.toList = t) = true)
      (all : ∀ w ∈ ws, w.toList ∈ unitWords) : t ∈ unitWords := by
    obtain ⟨w, mem, same⟩ := List.any_eq_true.1 found
    exact of_decide_eq_true same ▸ all w mem
  unfold TimeUnit.ofText? at h
  split_ifs at h with second minute hour day week fortnight month year
  · exact among _ second (by decide)
  · exact among _ minute (by decide)
  · exact among _ hour (by decide)
  · exact among _ day (by decide)
  · exact among _ week (by decide)
  · exact among _ fortnight (by decide)
  · exact among _ month (by decide)
  · exact among _ year (by decide)

variable {t n : Text} {x : Item} {xs : List Item} {count : Int}

/-- A word for a unit consists of letters, the last of which is none of `ago`. -/
theorem unit_letters {unit : TimeUnit} (h : TimeUnit.ofText? t = some unit) :
    t ≠ [] ∧ (∀ c ∈ t, isUnitLetter c = true) ∧ ∀ c ∈ t.getLast?, c ≠ 'o' := by
  have all : ∀ w ∈ unitWords, w ≠ [] ∧ w.all isUnitLetter = true ∧ w.getLast? ≠ some 'o' :=
    List.all_iff_forall_prop.1 (by decide +kernel)
  obtain ⟨ne, letters, last⟩ := all t (mem_unitWords h)
  exact ⟨ne, List.all_eq_true.1 letters, by rintro c hc rfl; exact last hc⟩

theorem countWord_letters (h : (t, count) ∈ countWords) :
    t ≠ [] ∧ ∀ c ∈ t, isUnitLetter c = true := by
  have all : ∀ p ∈ countWords, p.1 ≠ [] ∧ p.1.all isUnitLetter = true :=
    List.all_iff_forall_prop.1 (by decide +kernel)
  obtain ⟨ne, letters⟩ := all _ h
  exact ⟨ne, List.all_eq_true.1 letters⟩

/-- Whether a text starts with neither a blank nor a comma. -/
def StartsItem : Text → Prop
  | [] => False
  | c :: _ => isBlank c = false ∧ c ≠ ','

theorem StartsItem.ne_nil (h : StartsItem t) : t ≠ [] := by
  rintro rfl
  exact h

theorem StartsItem.head (h : StartsItem t) : ∀ c ∈ t.head?, isBlank c = false ∧ c ≠ ',' := by
  cases t with
  | nil => exact h.elim
  | cons c t =>
    rintro _ ⟨⟩
    exact h

theorem StartsItem.append (h : StartsItem t) (s : Text) : StartsItem (t ++ s) := by
  cases t with
  | nil => exact h.elim
  | cons c t => exact h

theorem StartsItem.startsWord (h : StartsItem t) : StartsWord t := by
  cases t with
  | nil => exact h.elim
  | cons c t => exact h.1

theorem startsItem_of_forall (ne : t ≠ [])
    (h : ∀ c ∈ t, isBlank c = false ∧ c ≠ ',') : StartsItem t := by
  cases t with
  | nil => exact absurd rfl ne
  | cons c t => exact h c List.mem_cons_self

theorem IsDigits.starts (h : IsDigits t) : StartsItem t := by
  exact startsItem_of_forall h.1 fun c hc =>
    ⟨isBlank_of_isDigit (h.2 c hc), ne_of_isDigit (h.2 c hc) (by decide)⟩

theorem startsItem_of_letters (ne : t ≠ []) (h : ∀ c ∈ t, isUnitLetter c = true) :
    StartsItem t :=
  startsItem_of_forall ne fun c hc => (letter_of_isUnitLetter (h c hc)).2

theorem IsNumber.starts (h : IsNumber n count) : StartsItem n := by
  cases h with
  | digits digits => exact digits.starts
  | plus | minus => exact ⟨by decide, by decide⟩

theorem IsItem.starts (h : IsItem t x) : StartsItem t := by
  cases h with
  | number number => exact number.starts.append _
  | word mem =>
    obtain ⟨ne, letters⟩ := countWord_letters mem
    exact (startsItem_of_letters ne letters).append _

theorem IsItems.starts (h : IsItems t xs) : StartsItem t := by
  cases h with
  | one item => exact item.starts
  | cons item => exact item.starts.append _

theorem getLast?_append_gap {s gap word : Text} (ne : word ≠ []) :
    (s ++ (gap ++ word)).getLast? = word.getLast? := by
  rw [← List.append_assoc, List.getLast?_append, List.getLast?_eq_some_getLast ne, Option.some_or]

/-- A number ends with a digit. -/
theorem IsNumber.ends (h : IsNumber n count) : ∀ c ∈ n.getLast?, isBlank c = false := by
  have last {ds : Text} (digits : IsDigits ds) : ∀ c ∈ ds.getLast?, isBlank c = false :=
    fun c hc => isBlank_of_isDigit (digits.2 c (List.mem_of_getLast? hc))
  cases h with
  | digits digits => exact last digits
  | plus _ digits | minus _ digits =>
    rw [← List.singleton_append, getLast?_append_gap digits.1]
    exact last digits

/-- An item ends with a letter of its unit. -/
theorem IsItem.ends (h : IsItem t x) : ∀ c ∈ t.getLast?, isUnitLetter c = true ∧ c ≠ 'o' := by
  cases h with
  | number _ _ unit | word _ _ _ unit =>
    obtain ⟨ne, letters, last⟩ := unit_letters unit
    rw [getLast?_append_gap ne]
    exact fun c hc => ⟨letters c (List.mem_of_getLast? hc), last c hc⟩

theorem IsItems.ends (h : IsItems t xs) : ∀ c ∈ t.getLast?, isUnitLetter c = true ∧ c ≠ 'o' := by
  induction h with
  | one item => exact item.ends
  | cons _ _ _ rest ih =>
    have ne := rest.starts.ne_nil
    rwa [getLast?_append_gap ne]

/-! ### Single spaces -/

/-- A gap before a word is one with single spaces. -/
theorem exists_spaced_gap {gap : Text} (h : IsBlanks gap) (start : StartsWord t) :
    ∃ g, IsBlanks g ∧ (g = [] ↔ gap = []) ∧ spaced (gap ++ t) = g ++ spaced t := by
  obtain ⟨g, chars, none, same⟩ := Text.exists_spaced_before gap start
  refine ⟨g, fun c hc => ?_, none, same⟩
  rcases chars c hc with rfl | mem
  · decide
  · exact h c mem

theorem spaced_of_word (h : ∀ c ∈ t, isBlank c = false) : spaced t = t := by
  simpa [Text.spaced_nil] using Text.spaced_word h []

theorem IsDigits.spaced (h : IsDigits t) : spaced t = t :=
  spaced_of_word fun c hc => isBlank_of_isDigit (h.2 c hc)

theorem spaced_of_letters (h : ∀ c ∈ t, isUnitLetter c = true) : spaced t = t :=
  spaced_of_word fun c hc => (letter_of_isUnitLetter (h c hc)).2.1

theorem IsNumber.spaced (h : IsNumber n count) : IsNumber (spaced n) count := by
  cases h with
  | digits digits => exact digits.spaced.symm ▸ .digits digits
  | plus blanks digits =>
    obtain ⟨g, blanks, -, same⟩ := exists_spaced_gap blanks digits.starts.startsWord
    rw [Text.spaced_cons (by decide), same, digits.spaced]
    exact .plus blanks digits
  | minus blanks digits =>
    obtain ⟨g, blanks, -, same⟩ := exists_spaced_gap blanks digits.starts.startsWord
    rw [Text.spaced_cons (by decide), same, digits.spaced]
    exact .minus blanks digits

theorem IsItem.spaced (h : IsItem t x) : IsItem (spaced t) x := by
  cases h with
  | number number blanks unit =>
    obtain ⟨ne, letters, -⟩ := unit_letters unit
    obtain ⟨g, blanks, -, same⟩ :=
      exists_spaced_gap blanks (startsItem_of_letters ne letters).startsWord
    rw [Text.spaced_append number.ends, same, spaced_of_letters letters]
    exact .number number.spaced blanks unit
  | word mem blanks gap unit =>
    obtain ⟨ne, letters, -⟩ := unit_letters unit
    obtain ⟨g, blanks, none, same⟩ :=
      exists_spaced_gap blanks (startsItem_of_letters ne letters).startsWord
    have word := (countWord_letters mem).2
    rw [Text.spaced_word fun c hc => (letter_of_isUnitLetter (word c hc)).2.1, same,
      spaced_of_letters letters]
    exact .word mem blanks (mt none.1 gap) unit

theorem head?_spaced (h : StartsWord t) : (spaced t).head? = t.head? := by
  cases t with
  | nil => rfl
  | cons c t => rw [Text.spaced_cons h]; rfl

theorem IsItems.spaced (h : IsItems t xs) : IsItems (spaced t) xs := by
  induction h with
  | one item => exact .one item.spaced
  | cons item seps letters rest ih =>
    have start := rest.starts.startsWord
    obtain ⟨g, chars, none, same⟩ := Text.exists_spaced_before _ start
    rw [Text.spaced_append fun c hc => (letter_of_isUnitLetter (item.ends c hc).1).2.1, same]
    refine .cons item.spaced (fun c hc => ?_) (fun empty => ?_) ih
    · rcases chars c hc with rfl | mem
      · exact .inl (by decide)
      · exact seps c mem
    · rw [head?_spaced start]
      exact letters (none.1 empty)

end FeedReader.TimeExpr
