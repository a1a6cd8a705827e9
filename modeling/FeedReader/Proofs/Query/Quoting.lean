import FeedReader.Proofs.Query.Written

/-!
# Texts between quotes

With a backslash before each of its quotes and backslashes, any text of a single line stands between
quotes as one token. What is searched is what stands there, with these backslashes, so that only
texts that need none are found.

* `escaped`, `inQuotes`: the text with its backslashes, alone and between quotes;
* `inQuotes_mem_language`: it is a quoted string;
* `SearchTerm.read_of_mem_quoted`: what a quoted string is read as;
* `SearchTerm.exists_read_verbatim_iff`: the texts that quoted strings are read as;
* `infix_iff_iff_eq`: texts that stand in the same contents are the same;
* `SearchTerm.read_inQuotes`.
-/

namespace FeedReader.Query

variable {s : Text}

/-! ### Backslashes -/

/-- A text with a backslash before each of its quotes and backslashes. -/
def escaped (s : Text) : Text := s.flatMap fun c => if c ∈ ['"', '\\'] then ['\\', c] else [c]

/-- A text between quotes, with a backslash before each of its own quotes and backslashes. -/
def inQuotes (s : Text) : Text := '"' :: (escaped s ++ ['"'])

theorem escaped_cons (c : Char) (s : Text) :
    escaped (c :: s) = (if c ∈ ['"', '\\'] then ['\\', c] else [c]) ++ escaped s := rfl

theorem length_le_length_escaped (s : Text) : s.length ≤ (escaped s).length := by
  induction s with
  | nil => exact Nat.le_refl 0
  | cons c s ih =>
    rw [escaped_cons]
    split <;> simp only [List.length_append, List.length_cons, List.length_nil] <;> omega

theorem escaped_eq_self_iff : escaped s = s ↔ '"' ∉ s ∧ '\\' ∉ s := by
  induction s with
  | nil => simp [escaped]
  | cons c s ih =>
    rw [escaped_cons]
    by_cases mark : c ∈ ['"', '\\']
    · -- the text gets longer
      have longer : ['\\', c] ++ escaped s ≠ c :: s := by
        intro same
        have lengths := congrArg List.length same
        have le := length_le_length_escaped s
        simp only [List.length_append, List.length_cons, List.length_nil] at lengths
        omega
      rw [if_pos mark]
      simp only [longer, false_iff]
      rintro ⟨quote, backslash⟩
      rcases List.mem_pair.1 mark with rfl | rfl
      · exact quote List.mem_cons_self
      · exact backslash List.mem_cons_self
    · have ne : c ≠ '"' ∧ c ≠ '\\' := by simpa using mark
      rw [if_neg mark, List.singleton_append, List.cons_inj_right, ih]
      simp [ne.1.symm, ne.2.symm]

/-- No quote of the text ends the quoted string, and no backslash of it takes a character along. -/
theorem inQuotes_mem_language (oneLine : '\n' ∉ s ∧ '\r' ∉ s) :
    inQuotes s ∈ Token.quoted.language := by
  refine mem_delimited_iff.2 ⟨escaped s, rfl, ?_⟩
  induction s with
  | nil => exact Chain.nil
  | cons c s ih =>
    simp only [List.mem_cons, not_or] at oneLine
    have rest := ih ⟨oneLine.1.2, oneLine.2.2⟩
    rw [escaped_cons]
    split
    · next mark =>
      have lineFeed : c ≠ '\n' := Ne.symm oneLine.1.1
      have pair : ['\\', c] ∈ escape :=
        single_mul.2 ⟨'\\', [c], rfl, by decide, mem_single.2 (by simpa using lineFeed)⟩
      exact Chain.separated pair rest
    · next plain =>
      refine Chain.char ?_ rest
      have ne : c ≠ '"' ∧ c ≠ '\\' := by simpa using plain
      simp [ne, Ne.symm oneLine.1.1, Ne.symm oneLine.2.1]

/-! ### Reading quoted strings -/

theorem tokenize_of_mem_quoted {q : Text} (h : q ∈ Token.quoted.language) :
    tokenize q = [⟨.quoted, 0, q⟩] :=
  lexemesFrom_whole (longest?_of_mem_quoted h) 0

namespace SearchTerm

/-- A quoted string is read as what stands between its quotes. -/
theorem read_of_mem_quoted (h : '"' :: (s ++ ['"']) ∈ Token.quoted.language) :
    SearchTerm.read ('"' :: (s ++ ['"'])) = .ok (.verbatim s) := by
  have found := longest?_of_mem_quoted h
  have next := Cursor.next_of_longest? (c := .start ('"' :: (s ++ ['"']))) (isGap_head? found) found
  rw [SearchTerm.read, next]
  simp only [Cursor.start, List.take_length, ofLexeme, Text.inner_enclosed]

/-- Some text is read as a verbatim one exactly if that makes up a quoted string with the quotes
around it. -/
theorem exists_read_verbatim_iff :
    (∃ q, SearchTerm.read q = .ok (.verbatim s)) ↔ '"' :: (s ++ ['"']) ∈ Token.quoted.language := by
  constructor
  · rintro ⟨q, read⟩
    unfold SearchTerm.read at read
    split at read
    · next x d found =>
      have form := text_of_ofLexeme (Cursor.wellFormed_of_next found) read
      have token : x.token = .quoted := by
        unfold ofLexeme at read
        split at read
        · split at read <;> simp at read
        · assumption
        · simp at read
        · simp at read
      obtain ⟨n, longest, cut⟩ := Cursor.longest?_of_next found (by simp [token])
      have mem := (Token.length?_eq_some_iff.1 (length?_of_longest? longest).1).1.2
      rwa [← cut, ← form, token] at mem
    · simp at read
  · exact fun h => ⟨_, read_of_mem_quoted h⟩

/-! ### What is found -/

theorem infix_iff_iff_eq {t : Text} : (∀ content, t <:+: content ↔ s <:+: content) ↔ t = s := by
  constructor
  · intro same
    have le := (same s).2 (List.infix_refl s)
    exact le.eq_of_length_le ((same t).1 (List.infix_refl t)).length_le
  · rintro rfl
    exact fun _ => Iff.rfl

/-- A text of a single line is one token between quotes, with a backslash before each of its quotes
and backslashes. As a search term it is found where the text stands with these backslashes, so that
it is found just where the text stands if there are none. What quoted strings are read as are the
texts that need no further backslash between quotes. -/
theorem read_inQuotes (oneLine : '\n' ∉ s ∧ '\r' ∉ s) :
    tokenize (inQuotes s) = [⟨.quoted, 0, inQuotes s⟩] ∧
      (∃ term, SearchTerm.read (inQuotes s) = .ok term ∧
        (∀ content, term.holds content = true ↔ escaped s <:+: content) ∧
        ((∀ content, term.holds content = true ↔ s <:+: content) ↔ '"' ∉ s ∧ '\\' ∉ s)) ∧
      ((∃ q, SearchTerm.read q = .ok (.verbatim s)) ↔
        '"' :: (s ++ ['"']) ∈ Token.quoted.language) := by
  have quoted := inQuotes_mem_language oneLine
  have holds (content : Text) :
      (verbatim (escaped s)).holds content = true ↔ escaped s <:+: content := Text.occursIn_iff
  refine ⟨tokenize_of_mem_quoted quoted, ⟨_, read_of_mem_quoted quoted, holds, ?_⟩,
    exists_read_verbatim_iff⟩
  simp only [holds]
  exact infix_iff_iff_eq.trans escaped_eq_self_iff

/-- A path with a space in it, which is found where it stands with two backslashes. -/
theorem read_inQuotes_path :
    ('\n' ∉ "C:\\a b".toList ∧ '\r' ∉ "C:\\a b".toList) ∧
      inQuotes "C:\\a b" = "\"C:\\\\a b\"".toList ∧
      tokenize (inQuotes "C:\\a b") = [⟨.quoted, 0, inQuotes "C:\\a b"⟩] ∧
      ∃ term, SearchTerm.read (inQuotes "C:\\a b") = .ok term ∧
        ∀ content, term.holds content = true ↔ "C:\\\\a b".toList <:+: content := by
  have oneLine : '\n' ∉ "C:\\a b".toList ∧ '\r' ∉ "C:\\a b".toList := by decide
  obtain ⟨tokens, ⟨term, read, holds, -⟩, -⟩ := read_inQuotes oneLine
  exact ⟨oneLine, by decide, tokens, term, read, holds⟩

/-- A quote is not found by searching for it between quotes, with a backslash before it. -/
theorem exists_not_holds_inQuotes :
    ∃ term, SearchTerm.read (inQuotes ['"']) = .ok term ∧
      (['"'] : Text) <:+: ['"'] ∧ term.holds ['"'] = false :=
  ⟨.verbatim ['\\', '"'], by decide +kernel, List.infix_refl _, by decide⟩

end SearchTerm

end FeedReader.Query
