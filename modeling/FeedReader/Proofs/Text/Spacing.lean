import FeedReader.Proofs.Text.Words
import FeedReader.Text.Case

/-!
# Texts with single spaces

* `lower_append_blank`: a blank keeps what stands before it from changing what stands behind it;
* `words_lower_trim`: a text in lower case has the same words if the blanks around it are dropped
  before;
* `spaced`: a text with a single space for each of its gaps, and `joinWith_words`: so are its words
  put together;
* `spaced_word`, `spaced_append`, `exists_spaced_before`: the parts of such a text;
* `mem_spaced`: its only blanks are spaces.
-/

namespace FeedReader.Text

/-- Whether a text has no character but blanks. -/
def IsBlanks (t : Text) : Prop := ∀ c ∈ t, isBlank c = true

variable {s t b e : Text} {c : Char}

/-! ### Blanks around a text -/

theorem trimStart_append (h : IsBlanks b) (t : Text) : trimStart (b ++ t) = trimStart t :=
  List.dropWhile_append_of_pos h

theorem exists_trimEnd (t : Text) : ∃ e, IsBlanks e ∧ t = trimEnd t ++ e := by
  induction t with
  | nil => exact ⟨[], List.forall_mem_nil _, rfl⟩
  | cons c t ih =>
    obtain ⟨e, blanks, same⟩ := ih
    simp only [trimEnd]
    split
    · next h =>
      simp only [Bool.and_eq_true, List.isEmpty_iff] at h
      rw [h.2] at same
      exact ⟨c :: e, List.forall_mem_cons.2 ⟨h.1, blanks⟩, congrArg (c :: ·) same⟩
    · exact ⟨e, blanks, congrArg (c :: ·) same⟩

/-- A text is its trimmed form with blanks around it. -/
theorem exists_trim (t : Text) : ∃ b e, IsBlanks b ∧ IsBlanks e ∧ t = b ++ (trim t ++ e) := by
  obtain ⟨e, blanks, same⟩ := exists_trimEnd (trimStart t)
  refine ⟨t.takeWhile isBlank, e, fun _ => List.mem_takeWhile_imp, blanks, ?_⟩
  rw [trim, ← same, trimStart, List.takeWhile_append_dropWhile]

theorem words_blanks_append (h : IsBlanks b) (t : Text) : words (b ++ t) = words t := by
  rw [← words_trimStart, trimStart_append h, words_trimStart]

theorem wordsFrom_of_blanks (h : IsBlanks e) : wordsFrom e = ([], []) := by
  induction e with
  | nil => rfl
  | cons c e ih =>
    obtain ⟨blank, blanks⟩ := List.forall_mem_cons.1 h
    simp [wordsFrom, ih blanks, blank]

theorem wordsFrom_append_blanks (h : IsBlanks e) (t : Text) :
    wordsFrom (t ++ e) = wordsFrom t := by
  induction t with
  | nil => exact wordsFrom_of_blanks h
  | cons c t ih => simp only [List.cons_append, wordsFrom, ih]

theorem words_append_blanks (h : IsBlanks e) (t : Text) : words (t ++ e) = words t := by
  rw [words, wordsFrom_append_blanks h, words]

/-! ### Blanks in lower case -/

/-- A blank has no case. -/
theorem lower_blank (h : isBlank c = true) :
    c ≠ 'Σ' ∧ lowerChar c = [c] ∧ cased.contains c = false := by
  have all : ∀ n ∈ blankCodes, n ≠ 'Σ'.toNat ∧ n ≠ 'İ'.toNat ∧
      CaseRun.find? lowerRuns n = none ∧ cased.startOf? n = none := by
    decide +kernel
  obtain ⟨sigma, dotted, run, range⟩ := all _ (mem_blankCodes h)
  have apart {d : Char} (ne : c.toNat ≠ d.toNat) : c ≠ d := fun same => ne (congrArg Char.toNat same)
  refine ⟨apart sigma, ?_, ?_⟩
  · simp [lowerChar, apart dotted, run]
  · simp [Ranges.contains, range]

theorem caseIgnorable_blank (h : isBlank c = true) : caseIgnorable.contains c = false := by
  have all : ∀ n ∈ blankCodes, caseIgnorable.startOf? n = none := by decide +kernel
  simp [Ranges.contains, all _ (mem_blankCodes h)]

/-- A blank ends what decides which form a letter takes. -/
theorem startsCased_append_blank (h : isBlank c = true) (s t : Text) :
    startsCased (s ++ c :: t) = startsCased s := by
  induction s with
  | nil => simp [startsCased, caseIgnorable_blank h, (lower_blank h).2.2]
  | cons d s ih => simp only [List.cons_append, startsCased, ih]

theorem lowerAfter_append_blank (h : isBlank c = true) (before : Bool) (s t : Text) :
    lowerAfter before (s ++ c :: t) = lowerAfter before s ++ c :: lower t := by
  induction s generalizing before with
  | nil =>
    obtain ⟨sigma, same, uncased⟩ := lower_blank h
    have after : casedAfter before c = false := by
      simp [casedAfter, caseIgnorable_blank h, uncased]
    rw [List.nil_append, lowerAfter, lowerAfter, if_neg sigma, same, after]
    rfl
  | cons d s ih =>
    simp only [List.cons_append, lowerAfter, startsCased_append_blank h, ih, List.append_assoc]

theorem lower_append_blank (h : isBlank c = true) (s t : Text) :
    lower (s ++ c :: t) = lower s ++ c :: lower t := lowerAfter_append_blank h false s t

theorem lower_blanks_append (h : IsBlanks b) (t : Text) : lower (b ++ t) = b ++ lower t := by
  induction b with
  | nil => rfl
  | cons c b ih =>
    obtain ⟨blank, blanks⟩ := List.forall_mem_cons.1 h
    exact (lower_append_blank blank [] (b ++ t)).trans (congrArg (c :: ·) (ih blanks))

theorem lower_append_blanks (h : IsBlanks e) (t : Text) : lower (t ++ e) = lower t ++ e := by
  cases e with
  | nil => simp
  | cons c e =>
    obtain ⟨blank, blanks⟩ := List.forall_mem_cons.1 h
    have same : lower e = e := by simpa [lower, lowerAfter] using lower_blanks_append blanks []
    rw [lower_append_blank blank, same]

/-- The words of a text in lower case, which blanks around the text do not change. -/
theorem words_lower_trim (t : Text) : words (lower (trim t)) = words (lower t) := by
  obtain ⟨b, e, before, after, same⟩ := exists_trim t
  have lowered : lower t = b ++ (lower (trim t) ++ e) :=
    calc
      lower t = lower (b ++ (trim t ++ e)) := congrArg lower same
      _ = b ++ (lower (trim t) ++ e) := by
        rw [lower_blanks_append before, lower_append_blanks after]
  rw [lowered, words_blanks_append before, words_append_blanks after]

/-! ### Single spaces -/

/-- A text in which a single space stands for each of its gaps, without those around it. A word that
goes on before the text is not set apart from it. -/
def spaced (t : Text) : Text := (wordsFrom t).1 ++ (wordsFrom t).2.flatMap (' ' :: ·)

/-- Whether a text starts with a character that is no blank. -/
def StartsWord : Text → Prop
  | [] => False
  | c :: _ => isBlank c = false

theorem StartsWord.append (h : StartsWord s) (t : Text) : StartsWord (s ++ t) := by
  cases s with
  | nil => exact h.elim
  | cons c s => exact h

theorem trimStart_of_startsWord (h : StartsWord t) : trimStart t = t := by
  cases t with
  | nil => exact h.elim
  | cons c t =>
    have letter : isBlank c = false := h
    exact List.dropWhile_cons_of_neg (by simp [letter])

theorem joinWith_cons (w : Text) (ws : List Text) :
    joinWith [' '] (w :: ws) = w ++ ws.flatMap (' ' :: ·) := by
  induction ws generalizing w with
  | nil => simp [joinWith]
  | cons v ws ih => simp [joinWith_cons_cons, ih]

theorem wordsFrom_isEmpty_iff : (wordsFrom t).1.isEmpty = true ↔ ¬ StartsWord t := by
  cases t with
  | nil => simp [wordsFrom, StartsWord]
  | cons c t => by_cases blank : isBlank c = true <;> simp [wordsFrom, StartsWord, blank]

theorem joinWith_words (h : StartsWord t) : joinWith [' '] (words t) = spaced t := by
  rw [words]
  simp only [if_neg (not_not_intro h ∘ wordsFrom_isEmpty_iff.1), joinWith_cons, spaced]

theorem spaced_nil : spaced [] = [] := rfl

theorem spaced_cons (h : isBlank c = false) (t : Text) : spaced (c :: t) = c :: spaced t := by
  simp [spaced, wordsFrom, h]

theorem spaced_cons_before_word (h : isBlank c = true) (start : StartsWord t) :
    spaced (c :: t) = ' ' :: spaced t := by
  have word : (wordsFrom t).1.isEmpty ≠ true := not_not_intro start ∘ wordsFrom_isEmpty_iff.1
  simp_all [spaced, wordsFrom]

theorem spaced_cons_before_gap (h : isBlank c = true) (gap : ¬ StartsWord t) :
    spaced (c :: t) = spaced t := by
  have noWord := wordsFrom_isEmpty_iff.2 gap
  simp_all [spaced, wordsFrom]

/-- What starts a word goes on as it is after another word. -/
theorem spaced_word (h : ∀ c ∈ s, isBlank c = false) (t : Text) :
    spaced (s ++ t) = s ++ spaced t := by
  induction s with
  | nil => rfl
  | cons c s ih =>
    obtain ⟨letter, letters⟩ := List.forall_mem_cons.1 h
    rw [List.cons_append, spaced_cons letter, ih letters, List.cons_append]

/-- The parts of a text, where the first one ends with a word. -/
theorem spaced_append (h : ∀ c ∈ s.getLast?, isBlank c = false) (t : Text) :
    spaced (s ++ t) = spaced s ++ spaced t := by
  induction s with
  | nil => rfl
  | cons c s ih =>
    cases s with
    | nil =>
      have letter : isBlank c = false := h c rfl
      rw [List.singleton_append, spaced_cons letter, spaced_cons letter, spaced_nil,
        List.singleton_append]
    | cons d s =>
      have rest := ih fun e he => h e (by rwa [List.getLast?_cons_cons])
      cases blank : isBlank c with
      | false => rw [List.cons_append, spaced_cons blank, spaced_cons blank, rest, List.cons_append]
      | true =>
        -- the next character tells if the gap goes on, and it is one of the first part
        by_cases start : StartsWord (d :: s)
        · rw [List.cons_append, spaced_cons_before_word blank (start.append t),
            spaced_cons_before_word blank start, rest, List.cons_append]
        · have gap : ¬ StartsWord (d :: s ++ t) := start
          rw [List.cons_append, spaced_cons_before_gap blank gap,
            spaced_cons_before_gap blank start, rest]

/-- What stands before a word has the same characters with single spaces. -/
theorem exists_spaced_before (b : Text) (start : StartsWord t) :
    ∃ g, (∀ c ∈ g, c = ' ' ∨ c ∈ b) ∧ (g = [] ↔ b = []) ∧ spaced (b ++ t) = g ++ spaced t := by
  induction b with
  | nil => exact ⟨[], List.forall_mem_nil _, Iff.rfl, rfl⟩
  | cons d b ih =>
    obtain ⟨g, chars, none, same⟩ := ih
    have more : ∀ c ∈ g, c = ' ' ∨ c ∈ d :: b := fun c hc =>
      (chars c hc).imp_right (List.mem_cons_of_mem d)
    rw [List.cons_append]
    cases blank : isBlank d with
    | false =>
      refine ⟨d :: g, List.forall_mem_cons.2 ⟨.inr List.mem_cons_self, more⟩, by simp, ?_⟩
      rw [spaced_cons blank, same, List.cons_append]
    | true =>
      by_cases next : StartsWord (b ++ t)
      · refine ⟨' ' :: g, List.forall_mem_cons.2 ⟨.inl rfl, more⟩, by simp, ?_⟩
        rw [spaced_cons_before_word blank next, same, List.cons_append]
      · refine ⟨g, more, ?_, by rw [spaced_cons_before_gap blank next, same]⟩
        -- the blank is left out for another one that stands before the word
        have gap : b ≠ [] := by
          rintro rfl
          exact next start
        simp [none, gap]

/-- The only blanks left are spaces. -/
theorem mem_spaced (h : c ∈ spaced t) : c = ' ' ∨ isBlank c = false ∧ c ∈ t := by
  induction t with
  | nil => exact absurd h List.not_mem_nil
  | cons d t ih =>
    have rest (h : c ∈ spaced t) : c = ' ' ∨ isBlank c = false ∧ c ∈ d :: t :=
      (ih h).imp_right fun ⟨letter, mem⟩ => ⟨letter, List.mem_cons_of_mem d mem⟩
    cases blank : isBlank d with
    | false =>
      rw [spaced_cons blank] at h
      rcases List.mem_cons.1 h with rfl | h
      · exact .inr ⟨blank, List.mem_cons_self⟩
      · exact rest h
    | true =>
      by_cases start : StartsWord t
      · rw [spaced_cons_before_word blank start] at h
        exact (List.mem_cons.1 h).elim .inl rest
      · exact rest (spaced_cons_before_gap blank start ▸ h)

end FeedReader.Text
