import FeedReader.Text.Blank
import FeedReader.Text.Letters
import Mathlib.Data.List.TakeWhile

/-!
# Words at the start of a line

* `IsWord`: a text without blanks that is not empty;
* `IsTrimmed`: a text that neither starts nor ends with a blank, as `trim` gives one;
* `IsLine`: a text with neither, that is not empty;
* `isWord_of_splitWord`, `isTrimmed_of_splitWord`, `exists_of_splitWord`: what taking the first word
  off a line gives;
* `takeWhile_append`: characters of one kind are taken up to the first one that is not;
* `splitWord_word`, `splitWord_append`: a word alone, or before a blank and a trimmed text, is taken
  off as it is;
* `mem_joinWith`, `joinWith_splitAtEach`, `splitAtEach_joinWith`: texts put together with separators
  between them;
* `words_append`, `words_of_splitWord`, `words_joinWith`: the words of a text are those of its parts.
-/

namespace FeedReader.Text

/-- Whether a text is a single word. -/
def IsWord (t : Text) : Prop := t ≠ [] ∧ ∀ c ∈ t, isBlank c = false

instance (t : Text) : Decidable (IsWord t) :=
  have : Decidable (∀ c ∈ t, isBlank c = false) := List.decidableBAll _ t
  inferInstanceAs (Decidable (t ≠ [] ∧ ∀ c ∈ t, isBlank c = false))

/-- Whether a text has no blank at either end. -/
def IsTrimmed (t : Text) : Prop :=
  (∀ c ∈ t.head?, isBlank c = false) ∧ ∀ c ∈ t.getLast?, isBlank c = false

/-- A trimmed text that is not empty. -/
structure IsLine (t : Text) : Prop where
  trimmed : IsTrimmed t
  ne_nil : t ≠ []

theorem IsWord.isLine {w : Text} (h : IsWord w) : IsLine w :=
  ⟨⟨fun _ hc => h.2 _ (List.mem_of_mem_head? hc), fun _ hc => h.2 _ (List.mem_of_getLast? hc)⟩, h.1⟩

theorem isLine_enclosed {a b : Char} {t : Text} (ha : isBlank a = false)
    (hb : isBlank b = false) : IsLine (a :: (t ++ [b])) := by
  refine ⟨⟨by simpa using ha, ?_⟩, by simp⟩
  rw [← List.cons_append, List.getLast?_concat]
  simpa using hb

/-- A word before a line. -/
theorem IsWord.isLine_append {w t : Text} (hw : IsWord w) (ht : IsLine t) :
    IsLine (w ++ ' ' :: t) := by
  refine ⟨⟨?_, ?_⟩, by simp⟩
  · rw [List.head?_append, List.head?_eq_some_head hw.1, Option.some_or, ← List.head?_eq_some_head]
    exact hw.isLine.trimmed.1
  · rw [List.getLast?_append, List.getLast?_cons_of_ne_nil ht.ne_nil,
      List.getLast?_eq_some_getLast ht.ne_nil, Option.some_or, ← List.getLast?_eq_some_getLast]
    exact ht.trimmed.2

theorem joinWith_cons_cons (sep a b : Text) (ts : List Text) :
    joinWith sep (a :: b :: ts) = a ++ sep ++ joinWith sep (b :: ts) := by
  simp [joinWith, List.intercalate]

theorem mem_joinWith {c : Char} {sep : Text} {ts : List Text} (h : c ∈ joinWith sep ts) :
    c ∈ sep ∨ ∃ t ∈ ts, c ∈ t := by
  induction ts with
  | nil => simp [joinWith] at h
  | cons t ts ih =>
    cases ts with
    | nil => exact .inr ⟨t, List.mem_cons_self, by simpa [joinWith] using h⟩
    | cons u ts =>
      rw [joinWith_cons_cons, List.mem_append, List.mem_append] at h
      rcases h with (first | sep) | rest
      · exact .inr ⟨t, List.mem_cons_self, first⟩
      · exact .inl sep
      · rcases ih rest with sep | ⟨v, hv, mem⟩
        · exact .inl sep
        · exact .inr ⟨v, List.mem_cons_of_mem t hv, mem⟩

theorem splitAtEach_eq_splitOn (sep : Char) (t : Text) : splitAtEach sep t = t.splitOn sep := by
  induction t with
  | nil => rfl
  | cons c t ih =>
    obtain ⟨piece, pieces, split⟩ := List.exists_cons_of_ne_nil (List.splitOn_ne_nil sep t)
    rw [splitAtEach, ih, List.splitOn_cons_eq_if_modifyHead, split]
    simp

/-- The pieces of a text with the separator between them. -/
theorem joinWith_splitAtEach (sep : Char) (t : Text) :
    joinWith [sep] (splitAtEach sep t) = t := by
  rw [splitAtEach_eq_splitOn]
  exact List.intercalate_splitOn sep

theorem splitAtEach_joinWith {sep : Char} {pieces : List Text} (ne_nil : pieces ≠ [])
    (free : ∀ piece ∈ pieces, sep ∉ piece) : splitAtEach sep (joinWith [sep] pieces) = pieces := by
  rw [splitAtEach_eq_splitOn]
  exact List.splitOn_intercalate sep free ne_nil

theorem not_mem_splitAtEach (sep : Char) (t : Text) : ∀ piece ∈ splitAtEach sep t, sep ∉ piece := by
  induction t with
  | nil => simp [splitAtEach]
  | cons c t ih =>
    rw [splitAtEach]
    by_cases same : c = sep
    · rw [if_pos same]
      exact List.forall_mem_cons.2 ⟨List.not_mem_nil, ih⟩
    · rw [if_neg same]
      cases split : splitAtEach sep t with
      | nil => simpa using Ne.symm same
      | cons piece pieces =>
        obtain ⟨first, rest⟩ := List.forall_mem_cons.1 (split ▸ ih)
        exact List.forall_mem_cons.2 ⟨List.not_mem_cons_of_ne_of_not_mem (Ne.symm same) first, rest⟩

/-- Words with blanks between them. -/
theorem isLine_joinWith {ws : List Text} (hn : ws ≠ []) (hw : ∀ w ∈ ws, IsWord w) :
    IsLine (joinWith " " ws) := by
  induction ws with
  | nil => exact absurd rfl hn
  | cons w ws ih =>
    have word := hw w (by simp)
    cases ws with
    | nil => simpa [joinWith] using word.isLine
    | cons v ws =>
      rw [joinWith_cons_cons, List.append_assoc]
      exact word.isLine_append (ih (by simp) fun u hu => hw u (by simp [hu]))

/-! ### Blanks -/

/-- The code points of the blanks. -/
def blankCodes : List Nat :=
  [9, 10, 11, 12, 13, 28, 29, 30, 31, 32, 0x85, 0xA0, 0x1680, 0x2000, 0x2001, 0x2002, 0x2003,
    0x2004, 0x2005, 0x2006, 0x2007, 0x2008, 0x2009, 0x200A, 0x2028, 0x2029, 0x202F, 0x205F, 0x3000]

theorem mem_blankCodes {c : Char} (h : isBlank c = true) : c.toNat ∈ blankCodes := by
  have runs : blankCodes = List.range' 9 5 ++ List.range' 28 5 ++ [0x85, 0xA0, 0x1680] ++
      List.range' 0x2000 11 ++ [0x2028, 0x2029, 0x202F, 0x205F, 0x3000] := rfl
  simp only [isBlank, Bool.or_eq_true, Bool.and_eq_true, decide_eq_true_eq] at h
  simp only [runs, List.mem_append, List.mem_range'_1, List.mem_cons, List.not_mem_nil, or_false]
  omega

/-- A blank is no word character. -/
theorem isBlank_of_isWordChar {c : Char} (h : isWordChar c = true) : isBlank c = false := by
  have blanks : ∀ n ∈ blankCodes, n ≠ '_'.toNat ∧ alphanumeric.startOf? n = none := by
    decide +kernel
  by_contra blank
  obtain ⟨line, range⟩ := blanks _ (mem_blankCodes (Bool.not_eq_false _ ▸ blank))
  simp only [isWordChar, Bool.or_eq_true, decide_eq_true_eq, Ranges.contains, range] at h
  rcases h with rfl | h
  · exact line rfl
  · simp at h

/-! ### Trimming -/

theorem trimStart_eq_self {t : Text} (h : ∀ c ∈ t.head?, isBlank c = false) : trimStart t = t := by
  cases t with
  | nil => rfl
  | cons c t => simp [trimStart, h c rfl]

theorem trimEnd_eq_self {t : Text} (h : ∀ c ∈ t.getLast?, isBlank c = false) : trimEnd t = t := by
  induction t with
  | nil => rfl
  | cons c t ih =>
    cases t with
    | nil => simp [trimEnd, h c rfl]
    | cons d t =>
      have rest := ih fun e he => h e (by rwa [List.getLast?_cons_cons])
      rw [trimEnd, rest]
      simp

theorem trim_eq_self {t : Text} (h : IsTrimmed t) : trim t = t := by
  rw [trim, trimStart_eq_self h.1, trimEnd_eq_self h.2]

theorem head?_trimEnd {t : Text} (h : ∀ c ∈ t.head?, isBlank c = false) :
    (trimEnd t).head? = t.head? := by
  cases t with
  | nil => rfl
  | cons c t => simp [trimEnd, h c rfl]

theorem getLast?_trimEnd (t : Text) : ∀ c ∈ (trimEnd t).getLast?, isBlank c = false := by
  induction t with
  | nil => simp [trimEnd]
  | cons c t ih =>
    simp only [trimEnd]
    split
    · simp
    · next h =>
      -- if nothing is left behind it, the character is kept for being no blank
      cases ht : trimEnd t with
      | nil => simpa [ht] using h
      | cons d s => rwa [List.getLast?_cons_cons, ← ht]

theorem isTrimmed_trim (t : Text) : IsTrimmed (trim t) := by
  have start : ∀ c ∈ (trimStart t).head?, isBlank c = false := by
    intro c hc
    have := List.head?_dropWhile_not isBlank t
    rw [show t.dropWhile isBlank = trimStart t from rfl, hc] at this
    simpa using this
  exact ⟨by rw [trim, head?_trimEnd start]; exact start, getLast?_trimEnd _⟩

/-! ### Taking the first word off -/

/-- Characters of one kind are taken up to the first one that is not. -/
theorem takeWhile_append {p : Char → Bool} {s t : Text} (h : ∀ c ∈ s, p c = true)
    (stop : ∀ c ∈ t.head?, p c = false) :
    (s ++ t).takeWhile p = s ∧ (s ++ t).dropWhile p = t := by
  rw [List.takeWhile_append_of_pos h, List.dropWhile_append_of_pos h]
  cases t with
  | nil => simp
  | cons c t => simp [stop c rfl]

theorem isWord_of_splitWord {t word rest : Text} (h : splitWord t = some (word, rest)) :
    IsWord word := by
  unfold splitWord at h
  split at h
  · simp at h
  · next c s hs =>
    have blank : isBlank c = false := by
      have := List.head?_dropWhile_not isBlank t
      rw [show t.dropWhile isBlank = c :: s from hs] at this
      simpa using this
    simp only [Option.some.injEq, Prod.mk.injEq] at h
    rw [← h.1]
    refine ⟨by simp [blank], fun d hd => ?_⟩
    simpa using List.mem_takeWhile_imp hd

theorem isTrimmed_of_splitWord {t word rest : Text} (h : splitWord t = some (word, rest)) :
    IsTrimmed rest := by
  unfold splitWord at h
  split at h
  · simp at h
  · simp only [Option.some.injEq, Prod.mk.injEq] at h
    exact h.2 ▸ isTrimmed_trim _

/-- A line that is not blank starts with its first word, behind which it ends or has a blank. -/
theorem exists_of_splitWord {t word rest : Text} (h : splitWord t = some (word, rest)) :
    ∃ tail, trimStart t = word ++ tail ∧ (∀ c ∈ tail.head?, isBlank c = true) ∧
      rest = trim tail := by
  unfold splitWord at h
  split at h
  · simp at h
  · next c s hs =>
    simp only [Option.some.injEq, Prod.mk.injEq] at h
    obtain ⟨rfl, rfl⟩ := h
    refine ⟨(c :: s).dropWhile (!isBlank ·), ?_, fun d hd => ?_, rfl⟩
    · rw [hs, List.takeWhile_append_dropWhile]
    · have stop := List.head?_dropWhile_not (!isBlank ·) (c :: s)
      rw [Option.mem_def.1 hd] at stop
      simpa using stop

theorem splitWord_of_append {w t : Text} (hw : IsWord w) (ht : ∀ c ∈ t.head?, isBlank c = true) :
    splitWord (w ++ t) = some (w, trim t) := by
  obtain ⟨c, s, rfl⟩ := List.exists_cons_of_ne_nil hw.1
  have letters : ∀ d ∈ c :: s, (!isBlank d) = true := fun d hd => by simp [hw.2 d hd]
  have start : trimStart (c :: s ++ t) = c :: (s ++ t) :=
    trimStart_eq_self fun d hd => hw.2 d (by simp_all)
  obtain ⟨word, after⟩ := takeWhile_append letters fun d hd => by simp [ht d hd]
  unfold splitWord
  simp only [start]
  rw [← List.cons_append, word, after]

theorem splitWord_word {w : Text} (hw : IsWord w) : splitWord w = some (w, []) := by
  simpa [trim, trimStart, trimEnd] using splitWord_of_append hw (t := []) (by simp)

theorem splitWord_append {w t : Text} (hw : IsWord w) (ht : IsTrimmed t) :
    splitWord (w ++ ' ' :: t) = some (w, t) := by
  have trimmed : trim (' ' :: t) = t := by
    rw [trim, trimStart, List.dropWhile_cons_of_pos (by decide)]
    exact trim_eq_self ht
  rw [splitWord_of_append hw (by simp; decide), trimmed]

/-! ### All words -/

/-- The words of two texts with a blank between them. -/
theorem words_append_blank {b : Char} (blank : isBlank b = true) (s t : Text) :
    words (s ++ b :: t) = words s ++ words t := by
  -- a word that goes on at the end of the first text is completed by the blank
  suffices from_start : wordsFrom (s ++ b :: t) = ((wordsFrom s).1, (wordsFrom s).2 ++ words t) by
    simp only [words, from_start]
    split <;> simp
  induction s with
  | nil => simp [wordsFrom, words, blank]
  | cons c s ih =>
    simp only [List.cons_append, wordsFrom, ih]
    split
    · split <;> simp
    · rfl

theorem words_append (s t : Text) : words (s ++ ' ' :: t) = words s ++ words t :=
  words_append_blank (by decide) s t

theorem words_trimStart (t : Text) : words (trimStart t) = words t := by
  induction t with
  | nil => rfl
  | cons c t ih =>
    by_cases blank : isBlank c = true
    · rw [trimStart, List.dropWhile_cons_of_pos blank]
      exact ih.trans (words_append_blank blank [] t).symm
    · rw [trimStart, List.dropWhile_cons_of_neg blank]

theorem wordsFrom_trimEnd (t : Text) : wordsFrom (trimEnd t) = wordsFrom t := by
  induction t with
  | nil => rfl
  | cons c t ih =>
    simp only [trimEnd]
    split
    · next h =>
      simp only [Bool.and_eq_true, List.isEmpty_iff] at h
      rw [h.2] at ih
      simp [wordsFrom, ← ih, h.1]
    · simp only [wordsFrom, ih]

theorem words_trim (t : Text) : words (trim t) = words t := by
  rw [trim, words, wordsFrom_trimEnd, ← words, words_trimStart]

theorem words_of_isWord {w : Text} (h : IsWord w) : words w = [w] := by
  have all : wordsFrom w = (w, []) := by
    have letters := h.2
    clear h
    induction w with
    | nil => rfl
    | cons c w ih =>
      obtain ⟨hc, hw⟩ := List.forall_mem_cons.1 letters
      simp [wordsFrom, ih hw, hc]
  simp [words, all, h.1]

/-- The words of a line are its first word and those of what follows it. -/
theorem words_of_splitWord {t word rest : Text} (h : splitWord t = some (word, rest)) :
    words t = word :: words rest := by
  have hw := isWord_of_splitWord h
  obtain ⟨tail, whole, stop, rfl⟩ := exists_of_splitWord h
  rw [words_trim, ← words_trimStart t, whole]
  cases tail with
  | nil => rw [List.append_nil, words_of_isWord hw]; rfl
  | cons b tail =>
    have blank : isBlank b = true := stop b rfl
    rw [words_append_blank blank, words_of_isWord hw, ← List.nil_append (b :: tail),
      words_append_blank blank]
    rfl

end FeedReader.Text
