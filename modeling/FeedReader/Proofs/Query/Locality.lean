import FeedReader.Proofs.Query.Languages

/-!
# Tokens before a gap

No token but a quoted string or a regular expression crosses a blank, and those end at a mark of
their own. So a text without errors keeps its tokens if a gap and anything else follow it.

* `Token.length?_append`, `longest?_append`, `Cursor.next_append`: the token at the start of a text;
* `longest?_of_mem_quoted`: a quoted string by itself;
* `lexemesFrom_gap`, `lexemesFrom_token`: reading on from one place;
* `Lexeme.shift`, `lexemesFrom_shift`: the same tokens at another place;
* `tokenize_append`: the tokens of two texts with a gap between them.
-/

namespace FeedReader.Query

/-! ### Texts without blanks -/

theorem isGap_iff {c : Char} : isGap c = true ↔ c = ' ' ∨ c = '\t' ∨ c = '\n' ∨ c = '\x0c' := by
  simp [isGap, or_assoc]

theorem isBlank_of_isGap {c : Char} (h : isGap c = true) : Text.isBlank c = true := by
  rcases isGap_iff.1 h with rfl | rfl | rfl | rfl <;> decide

theorem isBlank_of_isTagChar {c : Char} (h : isTagChar c = true) : Text.isBlank c = false := by
  by_contra blank
  have code := Text.mem_blankCodes (Bool.not_eq_false _ ▸ blank)
  have none : ∀ n ∈ Text.blankCodes, isTagChar (Char.ofNat n) = false := by decide
  rw [← Char.ofNat_toNat c, none _ code] at h
  cases h

/-- Blanks belong to no keyword, no word and no tag list. -/
theorem ne_of_isBlank {c : Char} (h : Text.isBlank c = true) :
    Text.isWordChar c = false ∧ isTagChar c = false ∧ isTagLetter c = false ∧ c ≠ ',' ∧ c ≠ '#' ∧
      ∀ k : Keyword, c ∉ k.literal := by
  have apart {d : Char} (letter : Text.isBlank d = false) : c ≠ d := by
    rintro rfl
    simp [letter] at h
  have keywords : (Keyword.list.all fun k => k.literal.all fun d => !Text.isBlank d) = true := by
    decide
  have noTag : isTagChar c = false := by
    by_contra tag
    exact apart (isBlank_of_isTagChar (Bool.not_eq_false _ ▸ tag)) rfl
  refine ⟨?_, noTag, ?_, apart (by decide), apart (by decide), fun k hc => ?_⟩
  · by_contra word
    exact apart (Text.isBlank_of_isWordChar (Bool.not_eq_false _ ▸ word)) rfl
  · simp only [isTagChar, Char.isAlphanum, Bool.or_eq_false_iff] at noTag
    exact noTag.1
  · have letters := List.all_eq_true.1 keywords k (Keyword.mem_list k)
    have letter := List.all_eq_true.1 letters c hc
    simp [h] at letter

theorem not_mem_of_tagChain {c : Char} (blank : Text.isBlank c = true) {u : Text}
    (h : TagChain u) : c ∉ u := by
  obtain ⟨-, noTag, noLetter, comma, mark, -⟩ := ne_of_isBlank blank
  induction h with
  | nil => exact List.not_mem_nil
  | @char a u ha _ ih =>
    have ne : c ≠ a := by
      rintro rfl
      simp [noTag] at ha
    simp [ne, ih]
  | @separated s u hs _ ih =>
    obtain ⟨a, rfl, ha⟩ := mem_tagSeparator.1 hs
    have ne : c ≠ a := by
      rintro rfl
      simp [noLetter] at ha
    simp [comma, mark, ne, ih]

/-- Only quoted strings and regular expressions have blanks in them. -/
theorem not_mem_of_isBlank {c : Char} (blank : Text.isBlank c = true) {token : Token}
    (quoted : token ≠ .quoted) (regex : token ≠ .regex) {t : Text} (h : t ∈ token.language) :
    c ∉ t := by
  obtain ⟨noWord, -, noLetter, -, mark, noKeyword⟩ := ne_of_isBlank blank
  cases token with
  | keyword k =>
    obtain rfl : t = k.literal := h
    exact noKeyword k
  | quoted => exact absurd rfl quoted
  | regex => exact absurd rfl regex
  | tagList =>
    obtain ⟨a, u, rfl, ha, hu⟩ := mem_tagList.1 h
    have ne : c ≠ a := by
      rintro rfl
      simp [noLetter] at ha
    simp [mark, ne, not_mem_of_tagChain blank hu]
  | word =>
    intro hc
    have := (mem_word.1 h).2 c hc
    simp [noWord] at this
  | error => exact h.elim

/-! ### The token at the start of a text -/

theorem mem_prefixLengths_append {l : Language Char} {s : Text} {n : Nat}
    (h : n ∈ prefixLengths l s) (u : Text) : n ∈ prefixLengths l (s ++ u) := by
  obtain ⟨t, r, rfl, ht, rfl⟩ := exists_of_mem_prefixLengths h
  rw [List.append_assoc]
  exact length_mem_prefixLengths ht (r ++ u)

section Blank

variable {s : Text} {c : Char}

theorem prefixLengths_append {l : Language Char} (free : ∀ t ∈ l, c ∉ t) (u : Text) :
    prefixLengths l (s ++ c :: u) = prefixLengths l s := by
  ext n
  constructor
  · rintro ⟨le, mem⟩
    by_cases short : n ≤ s.length
    · exact ⟨short, List.take_append_of_le_length short ▸ mem⟩
    · -- a longer text would have the blank in it
      refine absurd ?_ (free _ mem)
      rw [List.mem_take_iff_getElem]
      exact ⟨s.length, by simp; omega, by simp⟩
  · exact fun h => mem_prefixLengths_append h _

/-- How far a token reaches does not depend on what follows a blank, unless it is a quoted string or
a regular expression. -/
theorem Token.length?_append (blank : Text.isBlank c = true) {token : Token}
    (quoted : token ≠ .quoted) (regex : token ≠ .regex) (u : Text) :
    token.length? (s ++ c :: u) = token.length? s := by
  ext n
  rw [Token.length?_eq_some_iff, Token.length?_eq_some_iff,
    prefixLengths_append fun t ht => not_mem_of_isBlank blank quoted regex ht]

theorem startOf?_append (blank : Text.isBlank c = true) (u : Text) :
    Keyword.startOf? (s ++ c :: u) = Keyword.startOf? s := by
  ext k
  have iff (t : Text) : Keyword.startOf? t = some k ↔
      (Token.keyword k).length? t = some k.literal.length := by
    simp [keyword_length?_iff_start]
  rw [iff, iff, Token.length?_append blank (by simp) (by simp)]

theorem startOf?_of_mark {m : Char} (mark : m ∈ ['"', '/']) (t : Text) :
    Keyword.startOf? (m :: t) = none := by
  have marks : ∀ k ∈ Keyword.list, k.literal.head? ≠ some '"' ∧ k.literal.head? ≠ some '/' := by
    decide
  by_contra h
  obtain ⟨k, hk⟩ := Option.ne_none_iff_exists'.1 h
  obtain ⟨r, hr⟩ := startOf?_eq_some_iff.1 hk
  have head : k.literal.head? = some m := by
    rw [← List.head?_append_of_ne_nil _ (List.ne_nil_of_length_pos k.literal_length_pos), hr]
    rfl
  obtain ⟨noQuote, noSlash⟩ := marks k (Keyword.mem_list k)
  rcases List.mem_pair.1 mark with rfl | rfl
  · exact noQuote head
  · exact noSlash head

theorem longest?_of_mark {m : Char} (mark : m ∈ ['"', '/']) (t : Text) :
    longest? (m :: t) = openEnded? (m :: t) := by
  rw [longest?, startOf?_of_mark mark]

/-- A quoted string by itself is one token. -/
theorem longest?_of_mem_quoted {q : Text} (h : q ∈ Token.quoted.language) :
    longest? q = some (.quoted, q.length) := by
  have reach : quotedLength? q = some q.length :=
    quotedLength?_eq_some_iff.2 ⟨le_rfl, by rwa [List.take_length]⟩
  obtain ⟨u, rfl, -⟩ := mem_delimited_iff.1 h
  rw [longest?_of_mark (by simp), openEnded?_cons, if_pos rfl, reach]
  rfl

/-- A token stays the token at the start of a text if the text goes on after a blank. -/
theorem longest?_append (blank : Text.isBlank c = true) (u : Text) {p : Token × Nat}
    (h : longest? s = some p) : longest? (s ++ c :: u) = some p := by
  suffices same : openEnded? (s ++ c :: u) = openEnded? s by
    unfold longest? at h ⊢
    rwa [startOf?_append blank, same]
  cases s with
  | nil => simp [longest?_nil] at h
  | cons a s =>
    have same (token : Token) : token ≠ .quoted → token ≠ .regex →
        token.length? (a :: s ++ c :: u) = token.length? (a :: s) :=
      fun quoted regex => Token.length?_append blank quoted regex u
    have tagList := same .tagList (by simp) (by simp)
    have word := same .word (by simp) (by simp)
    rw [List.cons_append] at tagList word ⊢
    rw [openEnded?_cons, openEnded?_cons]
    split_ifs with quote slash mark
    · -- no keyword starts here, so that the token is a quoted string, which ends at its quote
      rw [longest?_of_mark (by simp [quote]), openEnded?_cons, if_pos quote] at h
      obtain ⟨n, found, -⟩ := Option.map_eq_some_iff.1 h
      have more := mem_prefixLengths_append (quotedLength?_eq_some_iff.1 found) (c :: u)
      rw [found, ← List.cons_append, quotedLength?_eq_some_iff.2 more]
    · rw [longest?_of_mark (by simp [slash]), openEnded?_cons, if_neg quote, if_pos slash] at h
      obtain ⟨n, found, -⟩ := Option.map_eq_some_iff.1 h
      have more := mem_prefixLengths_append (regexLength?_eq_some_iff.1 found) (c :: u)
      rw [found, ← List.cons_append, regexLength?_eq_some_iff.2 more]
    · exact congrArg _ tagList
    · exact congrArg _ word

theorem head?_append_of_longest? {p : Token × Nat} (h : longest? s = some p) (u : Text) :
    (s ++ u).head? = s.head? := by
  refine List.head?_append_of_ne_nil s ?_
  rintro rfl
  simp [longest?_nil] at h

/-- The next token is no other one if the text goes on after a blank. -/
theorem Cursor.next_append (blank : Text.isBlank c = true) (u : Text) {d : Cursor} {x : Lexeme}
    (start : ∀ a ∈ s.head?, isGap a = false) (h : (Cursor.start s).next = (some x, d))
    (sound : x.token ≠ .error) :
    (Cursor.start (s ++ c :: u)).next = (some x, { d with rest := d.rest ++ c :: u }) := by
  obtain ⟨n, found, -⟩ := longest?_of_next h sound
  rw [skipGap_eq_self start] at found
  change longest? s = _ at found
  have le : n ≤ s.length := (Token.length?_eq_some_iff.1 (length?_of_longest? found).1).1.1
  rw [next_of_longest? start found] at h
  obtain ⟨same, rfl⟩ := Prod.mk.inj h
  have solid : ∀ a ∈ (s ++ c :: u).head?, isGap a = false := by
    rwa [head?_append_of_longest? found]
  rw [next_of_longest? (c := .start (s ++ c :: u)) solid (longest?_append blank u found), ← same]
  simp only [Cursor.start, advance, List.take_append_of_le_length le,
    List.drop_append_of_le_length le]

end Blank

/-! ### Reading on -/

theorem lexemesFrom_nil (p : Nat) : lexemesFrom ⟨p, []⟩ = [] :=
  lexemesFrom_of_none (Cursor.next_of_nil rfl)

theorem lexemesFrom_gap {c : Char} (gap : isGap c = true) (p : Nat) (t : Text) :
    lexemesFrom ⟨p, c :: t⟩ = lexemesFrom ⟨p + 1, t⟩ := by
  have skip : Cursor.skipGap ⟨p, c :: t⟩ = Cursor.skipGap ⟨p + 1, t⟩ := by
    simp only [Cursor.skipGap, Cursor.advance, List.takeWhile_cons_of_pos gap, List.length_cons,
      List.drop_succ_cons, Cursor.mk.injEq, and_true]
    omega
  have same : Cursor.next ⟨p, c :: t⟩ = Cursor.next ⟨p + 1, t⟩ := by
    unfold Cursor.next Cursor.lexemeHere
    rw [skip]
  rcases found : Cursor.next ⟨p + 1, t⟩ with ⟨_ | x, d⟩
  · rw [lexemesFrom_of_none found, lexemesFrom_of_none (same.trans found)]
  · rw [lexemesFrom_of_some found, lexemesFrom_of_some (same.trans found)]

theorem lexemesFrom_token {p : Nat} {t : Text} {token : Token} {n : Nat}
    (start : ∀ c ∈ t.head?, isGap c = false) (h : longest? t = some (token, n)) :
    lexemesFrom ⟨p, t⟩ = ⟨token, p, t.take n⟩ :: lexemesFrom ⟨p + n, t.drop n⟩ :=
  lexemesFrom_of_some (Cursor.next_of_longest? start h)

theorem lexemesFrom_error {p : Nat} {c : Char} {t : Text} (solid : isGap c = false)
    (h : longest? (c :: t) = none) :
    lexemesFrom ⟨p, c :: t⟩ = ⟨.error, p, [c]⟩ :: lexemesFrom ⟨p + 1, t⟩ := by
  have self : Cursor.skipGap ⟨p, c :: t⟩ = ⟨p, c :: t⟩ :=
    Cursor.skipGap_eq_self (by simpa using solid)
  have found := Cursor.next_of_ne_nil (c := ⟨p, c :: t⟩) (by simp [self])
  rw [lexemesFrom_of_some found]
  simp [Cursor.lexemeHere, Cursor.tokenHere, Cursor.advance, self, h]

/-- Induction along the tokens of a text: a text is empty, or it starts with a gap, with a token or
with a character that starts none. -/
theorem lexing_induction {motive : Text → Prop} (nil : motive [])
    (gap : ∀ c t, isGap c = true → motive t → motive (c :: t))
    (token : ∀ t token n, (∀ c ∈ t.head?, isGap c = false) → longest? t = some (token, n) →
      motive (t.drop n) → motive t)
    (error : ∀ c t, isGap c = false → longest? (c :: t) = none → motive t → motive (c :: t))
    (t : Text) : motive t := by
  induction h : t.length using Nat.strong_induction_on generalizing t with
  | _ size ih =>
    subst h
    cases t with
    | nil => exact nil
    | cons c t =>
      by_cases hc : isGap c = true
      · exact gap c t hc (ih t.length (Nat.lt_succ_self _) t rfl)
      · have solid : isGap c = false := by simpa using hc
        cases found : longest? (c :: t) with
        | none => exact error c t solid found (ih t.length (Nat.lt_succ_self _) t rfl)
        | some p =>
          have pos := longest?_pos found
          refine token (c :: t) p.1 p.2 (by simpa using solid) found (ih _ ?_ _ rfl)
          rw [List.length_drop, List.length_cons]
          omega

/-! ### The same tokens at another place -/

/-- A lexeme that stands further on in a text. -/
def Lexeme.shift (k : Nat) (x : Lexeme) : Lexeme := { x with start := k + x.start }

theorem lexemesFrom_shift (k p : Nat) (t : Text) :
    lexemesFrom ⟨k + p, t⟩ = (lexemesFrom ⟨p, t⟩).map (Lexeme.shift k) := by
  induction t using lexing_induction generalizing p with
  | nil => rw [lexemesFrom_nil, lexemesFrom_nil, List.map_nil]
  | gap c t hc ih => rw [lexemesFrom_gap hc, lexemesFrom_gap hc, Nat.add_assoc, ih]
  | token t token n start found ih =>
    rw [lexemesFrom_token start found, lexemesFrom_token start found, Nat.add_assoc, ih]
    rfl
  | error c t solid found ih =>
    rw [lexemesFrom_error solid found, lexemesFrom_error solid found, Nat.add_assoc, ih]
    rfl

/-! ### Two texts -/

/-- Texts without errors keep their tokens if a gap and anything else follow them. -/
theorem lexemesFrom_append {c : Char} (gap : isGap c = true) (u : Text) (p : Nat) (s : Text)
    (clean : ∀ x ∈ lexemesFrom ⟨p, s⟩, x.token ≠ .error) :
    lexemesFrom ⟨p, s ++ c :: u⟩ = lexemesFrom ⟨p, s⟩ ++ lexemesFrom ⟨p + s.length + 1, u⟩ := by
  induction s using lexing_induction generalizing p with
  | nil => rw [List.nil_append, lexemesFrom_nil, lexemesFrom_gap gap]; rfl
  | gap a s ha ih =>
    rw [lexemesFrom_gap ha] at clean
    rw [List.cons_append, lexemesFrom_gap ha, lexemesFrom_gap ha, ih _ clean, List.length_cons,
      Nat.add_right_comm p, Nat.add_assoc p]
  | token s token n start found ih =>
    rw [lexemesFrom_token start found, List.forall_mem_cons] at clean
    have le : n ≤ s.length := (Token.length?_eq_some_iff.1 (length?_of_longest? found).1).1.1
    have solid : ∀ a ∈ (s ++ c :: u).head?, isGap a = false := by
      rwa [head?_append_of_longest? found]
    have found' := longest?_append (isBlank_of_isGap gap) u found
    rw [lexemesFrom_token start found, lexemesFrom_token solid found',
      List.take_append_of_le_length le, List.drop_append_of_le_length le, ih _ clean.2,
      List.length_drop, List.cons_append]
    congr 4
    omega
  | error a s solid found ih =>
    rw [lexemesFrom_error solid found] at clean
    exact absurd rfl (clean _ List.mem_cons_self)

theorem tokenize_append {s u : Text} {c : Char} (gap : isGap c = true)
    (clean : ∀ x ∈ tokenize s, x.token ≠ .error) :
    tokenize (s ++ c :: u) = tokenize s ++ (tokenize u).map (Lexeme.shift (s.length + 1)) := by
  unfold tokenize Cursor.start at *
  rw [lexemesFrom_append gap u 0 s clean, ← lexemesFrom_shift, Nat.zero_add, Nat.add_zero]

end FeedReader.Query
