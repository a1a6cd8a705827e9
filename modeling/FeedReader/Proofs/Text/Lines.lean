import FeedReader.Proofs.Text.Spacing

/-!
# Lines that go on

What follows the first word of a line goes on as the line does.

* `trim_enclosed`, `splitWord_trim`: blanks around a line do not matter;
* `splitWord_eq_none_iff`, `trim_eq_nil_iff`, `words_eq_nil_iff`: blank lines;
* `exists_splitWord_of_words`: a line with words has a first one;
* `IsBreak`: blanks between words;
* `IsJoin`: a line that consists of two, up to the blanks between and around them;
* `IsJoin.splitWord`: it starts with the first word of the first line, and what follows is such a
  line again;
* `IsJoin.eq_word`, `IsJoin.splitWord_of_words`: a line that goes on with a single word;
* `IsJoin.exists_append`: the lines it consists of, as they are;
* `exists_splitLast_append`: its part before the last word.
-/

namespace FeedReader.Text

variable {s t u x b e g word rest : Text}

/-! ### Blanks around a line -/

theorem trimStart_blanks (h : IsBlanks b) : trimStart b = [] := by
  simpa [trimStart] using trimStart_append h []

theorem trimEnd_append_blanks (h : IsBlanks e) (t : Text) : trimEnd (t ++ e) = trimEnd t := by
  induction t with
  | nil =>
    show trimEnd e = []
    induction e with
    | nil => rfl
    | cons c e ih =>
      obtain ⟨blank, blanks⟩ := List.forall_mem_cons.1 h
      simp [trimEnd, ih blanks, blank]
  | cons c t ih => simp only [List.cons_append, trimEnd, ih]

/-- Blanks around a trimmed text are trimmed off. -/
theorem trim_enclosed (before : IsBlanks b) (after : IsBlanks e) (ht : IsTrimmed t) :
    trim (b ++ (t ++ e)) = t := by
  rw [trim, trimStart_append before]
  cases t with
  | nil => rw [List.nil_append, trimStart_blanks after, trimEnd]
  | cons c t =>
    have letter : ∀ d ∈ (c :: t ++ e).head?, isBlank d = false := ht.1
    rw [trimStart_eq_self letter, trimEnd_append_blanks after, trimEnd_eq_self ht.2]

theorem trim_trim (t : Text) : trim (trim t) = trim t := trim_eq_self (isTrimmed_trim t)

theorem trim_blanks_append (h : IsBlanks b) (t : Text) : trim (b ++ t) = trim t := by
  rw [trim, trimStart_append h, trim]

/-- The blanks at the end of a text stay where the text goes on. -/
theorem exists_trim_append (t y : Text) :
    ∃ e, IsBlanks e ∧ trim (t ++ y) = trim (trim t ++ (e ++ y)) := by
  obtain ⟨b, e, before, after, same⟩ := exists_trim t
  have split : t ++ y = b ++ (trim t ++ (e ++ y)) :=
    (congrArg (· ++ y) same).trans (by simp only [List.append_assoc])
  exact ⟨e, after, by rw [split, trim_blanks_append before]⟩

theorem trim_append_blanks (h : IsBlanks e) (t : Text) : trim (t ++ e) = trim t := by
  obtain ⟨e', blanks, same⟩ := exists_trim_append t e
  have after : IsBlanks (e' ++ e) := List.forall_mem_append.2 ⟨blanks, h⟩
  rw [same, ← List.nil_append (trim t ++ _)]
  exact trim_enclosed (List.forall_mem_nil _) after (isTrimmed_trim t)

/-! ### The first word -/

theorem splitWord_blanks_append (h : IsBlanks b) (t : Text) : splitWord (b ++ t) = splitWord t := by
  rw [splitWord, trimStart_append h, splitWord]

theorem takeWhile_append_trimStart (t : Text) : t.takeWhile isBlank ++ trimStart t = t :=
  List.takeWhile_append_dropWhile

theorem isBlanks_takeWhile (t : Text) : IsBlanks (t.takeWhile isBlank) :=
  fun _ => List.mem_takeWhile_imp

/-- A line that goes on with a blank keeps its first word. -/
theorem exists_splitWord_append (h : splitWord t = some (word, rest)) :
    ∃ tail, rest = trim tail ∧ ∀ y, (∀ c ∈ y.head?, isBlank c = true) →
      splitWord (t ++ y) = some (word, trim (tail ++ y)) := by
  obtain ⟨tail, whole, stop, rfl⟩ := exists_of_splitWord h
  refine ⟨tail, rfl, fun y goesOn => ?_⟩
  have head : ∀ c ∈ (tail ++ y).head?, isBlank c = true := by
    cases tail with
    | nil => exact goesOn
    | cons d tail => exact stop
  have split : t ++ y = t.takeWhile isBlank ++ (word ++ (tail ++ y)) := by
    rw [← List.append_assoc word, ← whole, ← List.append_assoc, takeWhile_append_trimStart]
  rw [split, splitWord_blanks_append (isBlanks_takeWhile t),
    splitWord_of_append (isWord_of_splitWord h) head]

theorem splitWord_eq_none_iff : splitWord t = none ↔ IsBlanks t := by
  constructor
  · intro h
    unfold splitWord at h
    split at h
    · next none => exact List.dropWhile_eq_nil_iff.1 none
    · simp at h
  · intro h
    rw [splitWord, trimStart_blanks h]

theorem splitWord_append_blanks (h : IsBlanks e) (t : Text) : splitWord (t ++ e) = splitWord t := by
  cases found : splitWord t with
  | none =>
    have blanks := splitWord_eq_none_iff.1 found
    exact splitWord_eq_none_iff.2 (List.forall_mem_append.2 ⟨blanks, h⟩)
  | some p =>
    obtain ⟨word, rest⟩ := p
    obtain ⟨tail, rfl, goesOn⟩ := exists_splitWord_append found
    rw [goesOn e fun c hc => h c (List.mem_of_mem_head? hc), trim_append_blanks h]

theorem splitWord_trim (t : Text) : splitWord (trim t) = splitWord t := by
  obtain ⟨b, e, before, after, same⟩ := exists_trim t
  calc
    splitWord (trim t) = splitWord (b ++ (trim t ++ e)) := by
      rw [splitWord_blanks_append before, splitWord_append_blanks after]
    _ = splitWord t := congrArg splitWord same.symm

theorem IsWord.not_isBlanks (h : IsWord word) : ¬ IsBlanks word := by
  intro blanks
  have letter := h.2 _ (List.head_mem h.1)
  simp [blanks _ (List.head_mem h.1)] at letter

theorem trim_eq_nil_iff : trim t = [] ↔ IsBlanks t := by
  rw [← splitWord_eq_none_iff, ← splitWord_trim]
  constructor
  · intro h
    rw [h]
    rfl
  · intro h
    by_contra some
    have letter := (isTrimmed_trim t).1 _ (List.head?_eq_some_head some)
    have blank := splitWord_eq_none_iff.1 h _ (List.head_mem some)
    simp [letter] at blank

theorem words_eq_nil_iff : words t = [] ↔ IsBlanks t := by
  rw [← splitWord_eq_none_iff]
  constructor
  · intro h
    by_contra some
    obtain ⟨⟨word, rest⟩, found⟩ := Option.ne_none_iff_exists'.1 some
    simp [words_of_splitWord found] at h
  · intro h
    simp [words, wordsFrom_of_blanks (splitWord_eq_none_iff.1 h)]

/-- The first word of a line with words, and the line with the others. -/
theorem exists_splitWord_of_words {ws : List Text} (h : words t = word :: ws) :
    ∃ rest, splitWord t = some (word, rest) ∧ words rest = ws := by
  cases found : splitWord t with
  | none =>
    rw [words_eq_nil_iff.2 (splitWord_eq_none_iff.1 found)] at h
    cases h
  | some p =>
    obtain ⟨first, rest⟩ := p
    have all := words_of_splitWord found
    rw [h, List.cons.injEq] at all
    exact ⟨rest, by rw [all.1], all.2.symm⟩

/-! ### Lines that consist of two -/

/-- Whether a text is what stands between two words: a blank or more of them. -/
structure IsBreak (g : Text) : Prop where
  blanks : IsBlanks g
  ne_nil : g ≠ []

theorem IsBreak.append (before : IsBlanks b) (h : IsBreak g) : IsBreak (b ++ g) where
  blanks := List.forall_mem_append.2 ⟨before, h.blanks⟩
  ne_nil := List.append_ne_nil_of_right_ne_nil b h.ne_nil

theorem isBreak_space : IsBreak [' '] where
  blanks := List.forall_mem_singleton.2 (by decide)
  ne_nil := List.cons_ne_nil _ _

/-- Whether a line consists of a line and another one behind it, with blanks between them; blanks
around it do not matter. -/
def IsJoin (t x u : Text) : Prop := ∃ g, IsBreak g ∧ trim u = trim (trim t ++ (g ++ x))

theorem isJoin_append (hg : IsBreak g) (t x : Text) : IsJoin t x (t ++ (g ++ x)) := by
  obtain ⟨e, blanks, same⟩ := exists_trim_append t (g ++ x)
  exact ⟨e ++ g, hg.append blanks, by rw [same, List.append_assoc e]⟩

theorem isJoin_space (t x : Text) : IsJoin t x (t ++ ' ' :: x) := isJoin_append isBreak_space t x

namespace IsJoin

theorem congr (h : IsJoin s x u) (same : trim s = trim t) : IsJoin t x u := by
  obtain ⟨g, hg, whole⟩ := h
  exact ⟨g, hg, same ▸ whole⟩

/-- Behind a blank line there is only the other one. -/
theorem trim_eq (h : IsJoin t x u) (blanks : IsBlanks t) : trim u = trim x := by
  obtain ⟨g, hg, whole⟩ := h
  rw [whole, trim_eq_nil_iff.2 blanks, List.nil_append, trim_blanks_append hg.blanks]

/-- Taking the first word off leaves a line that goes on as before. -/
theorem splitWord (h : IsJoin t x u) (found : t.splitWord = some (word, rest)) :
    ∃ rest', u.splitWord = some (word, rest') ∧ IsJoin rest x rest' := by
  obtain ⟨g, hg, whole⟩ := h
  rw [← splitWord_trim] at found
  obtain ⟨tail, rfl, goesOn⟩ := exists_splitWord_append found
  have head : ∀ c ∈ (g ++ x).head?, isBlank c = true := by
    obtain ⟨c, g, rfl⟩ := List.exists_cons_of_ne_nil hg.ne_nil
    intro d hd
    obtain rfl : c = d := by simpa using hd
    exact hg.blanks c List.mem_cons_self
  refine ⟨trim (tail ++ (g ++ x)), ?_, ?_⟩
  · rw [← splitWord_trim, whole, splitWord_trim, goesOn _ head]
  · obtain ⟨e, blanks, same⟩ := exists_trim_append tail (g ++ x)
    exact ⟨e ++ g, hg.append blanks, by rw [trim_trim, trim_trim, same, List.append_assoc e]⟩

theorem not_isBlanks (h : IsJoin t x u) (hx : ¬ IsBlanks x) : ¬ IsBlanks u := by
  obtain ⟨g, hg, whole⟩ := h
  intro blanks
  rw [trim_eq_nil_iff.2 blanks, eq_comm, trim_eq_nil_iff] at whole
  exact hx fun c hc => whole c (List.mem_append_right _ (List.mem_append_right _ hc))

/-- Behind a blank line there is only the word that the line goes on with. -/
theorem eq_word (h : IsJoin t word u) (blanks : IsBlanks t) (hw : IsWord word) (hu : IsTrimmed u) :
    u = word := by
  rw [← trim_eq_self hu, h.trim_eq blanks, trim_eq_self hw.isLine.trimmed]

/-- Behind a line of one word there is just the word that the line goes on with. -/
theorem splitWord_of_words {first : Text} (h : IsJoin t word u) (single : words t = [first])
    (hw : IsWord word) : u.splitWord = some (first, word) := by
  obtain ⟨rest, found, none⟩ := exists_splitWord_of_words single
  obtain ⟨rest', found', goesOn⟩ := h.splitWord found
  obtain rfl := goesOn.eq_word (words_eq_nil_iff.1 none) hw (isTrimmed_of_splitWord found')
  exact found'

theorem ne_nil (h : IsJoin t x u) (hx : ¬ IsBlanks x) : u ≠ [] := by
  rintro rfl
  exact h.not_isBlanks hx (List.forall_mem_nil _)

end IsJoin

theorem trimEnd_append (ht : ¬ IsBlanks t) (s : Text) : trimEnd (s ++ t) = s ++ trimEnd t := by
  have some : trimEnd t ≠ [] := by
    intro none
    obtain ⟨e, blanks, same⟩ := exists_trimEnd t
    rw [none, List.nil_append] at same
    exact ht (same ▸ blanks)
  induction s with
  | nil => rfl
  | cons c s ih => simp [trimEnd, ih, some]

/-- A line that goes on, as it is. -/
theorem IsJoin.exists_append (h : IsJoin t x u) (ht : IsLine t) (hu : IsTrimmed u)
    (hx : ¬ IsBlanks x) : ∃ c y, isBlank c = true ∧ ¬ IsBlanks y ∧ u = t ++ c :: y := by
  obtain ⟨g, hg, whole⟩ := h
  obtain ⟨c, g, rfl⟩ := List.exists_cons_of_ne_nil hg.ne_nil
  have start : ∀ d ∈ (t ++ (c :: g ++ x)).head?, isBlank d = false := by
    obtain ⟨a, t, rfl⟩ := List.exists_cons_of_ne_nil ht.ne_nil
    exact ht.trimmed.1
  have more : ¬ IsBlanks (c :: g ++ x) :=
    fun blanks => hx fun d hd => blanks d (List.mem_append_right _ hd)
  have last : ¬ IsBlanks (trimEnd x) := by
    intro blanks
    obtain ⟨e, after, same⟩ := exists_trimEnd x
    exact hx (same ▸ List.forall_mem_append.2 ⟨blanks, after⟩)
  refine ⟨c, g ++ trimEnd x, hg.blanks c List.mem_cons_self, ?_, ?_⟩
  · exact fun blanks => last fun d hd => blanks d (List.mem_append_right _ hd)
  · rw [trim_eq_self hu, trim_eq_self ht.trimmed, trim, trimStart_eq_self start,
      trimEnd_append more, trimEnd_append hx] at whole
    exact whole

end FeedReader.Text
