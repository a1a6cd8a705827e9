import FeedReader.Proofs.Text.Words
import FeedReader.Query.Error
import Mathlib.Data.List.TakeWhile
import Mathlib.Tactic.SplitIfs

/-!
# Tokens cut out of a text

An open-ended token is found again if it stands alone: where a token ends does not depend on what
follows it, once it has been found.

* `delimitedLength?_take`, `tagListRest_take`: the same for the parts of tokens;
* `openEnded?_take`, `longest?_take`;
* `startOf?_eq_some_iff`: the keyword at the start of a text;
* `Cursor.next_of_nil`, `lexemesFrom_of_none` and their like: what reading on finds.
-/

namespace FeedReader.Query

/-! ### Open-ended tokens -/

/-- A character other than a backslash ends a delimited text, or breaks it off, or belongs to it. -/
theorem delimitedLength?_cons {close : Char} {barred : Char → Bool} {c : Char} (t : Text)
    (hc : c ≠ '\\') :
    delimitedLength? close barred (c :: t) =
      if c = close then some 1 else if barred c then none
      else (delimitedLength? close barred t).map (· + 1) := by
  rw [delimitedLength?] <;> simp_all

theorem ne_backslash {c : Char} {t : Text} (h1 : c = '\\' → t = [] → False)
    (h2 : ∀ d s, c = '\\' → t = d :: s → False) : c ≠ '\\' := by
  rintro rfl
  cases t with
  | nil => exact h1 rfl rfl
  | cons d s => exact h2 d s rfl rfl

theorem delimitedLength?_take {close : Char} {barred : Char → Bool} {t : Text} {n : Nat}
    (h : delimitedLength? close barred t = some n) :
    delimitedLength? close barred (t.take n) = some n := by
  induction t using delimitedLength?.induct close barred generalizing n with
  | case1 => simp [delimitedLength?] at h
  | case2 => simp [delimitedLength?] at h
  | case3 t => simp [delimitedLength?] at h
  -- a backslash and the character after it
  | case4 c t hc ih =>
    simp only [delimitedLength?, if_neg hc, Option.map_eq_some_iff] at h
    obtain ⟨m, hm, rfl⟩ := h
    simp [delimitedLength?, hc, ih hm]
  | case5 t h1 h2 =>
    have hb := ne_backslash h1 h2
    rw [delimitedLength?_cons t hb, if_pos rfl] at h
    obtain rfl := Option.some.inj h
    rw [List.take_succ_cons, delimitedLength?_cons _ hb, if_pos rfl]
  | case6 c t h1 h2 hc hbar =>
    rw [delimitedLength?_cons t (ne_backslash h1 h2), if_neg hc, if_pos hbar] at h
    simp at h
  | case7 c t h1 h2 hc hbar ih =>
    have hb := ne_backslash h1 h2
    rw [delimitedLength?_cons t hb, if_neg hc, if_neg hbar, Option.map_eq_some_iff] at h
    obtain ⟨m, hm, rfl⟩ := h
    rw [List.take_succ_cons, delimitedLength?_cons _ hb, if_neg hc, if_neg hbar, ih hm]
    rfl

theorem tagListRest_cons {c : Char} (t : Text) (hc : c ≠ ',') :
    tagListRest (c :: t) = if isTagChar c then tagListRest t + 1 else 0 := by
  rw [tagListRest]
  rintro d r rfl
  exact absurd rfl hc

theorem tagListRest_take (t : Text) : tagListRest (t.take (tagListRest t)) = tagListRest t := by
  induction t using tagListRest.induct with
  | case1 => rfl
  | case2 c t hc ih => simp [tagListRest, hc, ih]
  | case3 c t hc => simp [tagListRest, hc]
  | case4 c t h hc ih =>
    have hn : c ≠ ',' := by rintro rfl; exact absurd hc (by decide)
    rw [tagListRest_cons t hn, if_pos hc, List.take_succ_cons, tagListRest_cons _ hn, if_pos hc, ih]
  | case5 c t h hc =>
    have none : tagListRest (c :: t) = 0 := by
      rw [tagListRest, if_neg hc]
      exact h
    rw [none]
    rfl

theorem quotedLength?_take {t : Text} {n : Nat} (h : quotedLength? t = some n) :
    quotedLength? (t.take n) = some n := by
  unfold quotedLength? at h
  split at h
  · obtain ⟨m, hm, rfl⟩ := Option.map_eq_some_iff.1 h
    rw [List.take_succ_cons, quotedLength?, delimitedLength?_take hm]
    rfl
  · simp at h

theorem regexLength?_take {t : Text} {n : Nat} (h : regexLength? t = some n) :
    regexLength? (t.take n) = some n := by
  unfold regexLength? at h
  split at h
  · obtain ⟨m, hm, rfl⟩ := Option.map_eq_some_iff.1 h
    rw [List.take_succ_cons, regexLength?, delimitedLength?_take hm]
    rfl
  · simp at h

theorem tagListLength?_take {t : Text} {n : Nat} (h : tagListLength? t = some n) :
    tagListLength? (t.take n) = some n := by
  unfold tagListLength? at h
  split at h
  · next c t =>
    split at h
    · next hc =>
      obtain rfl := Option.some.inj h
      rw [List.take_succ_cons, List.take_succ_cons, tagListLength?, if_pos hc, tagListRest_take]
    · simp at h
  · simp at h

theorem wordLength?_eq_some_iff {t : Text} {n : Nat} :
    wordLength? t = some n ↔ (t.takeWhile Text.isWordChar).length = n ∧ 0 < n := by
  unfold wordLength?
  split
  · next none =>
    rw [none]
    simp only [reduceCtorEq, false_iff]
    omega
  · next m found =>
    rw [found, Option.some.injEq]
    omega

theorem take_length_takeWhile (p : Char → Bool) (t : Text) :
    t.take (t.takeWhile p).length = t.takeWhile p :=
  (List.prefix_iff_eq_take.1 (List.takeWhile_prefix p)).symm

theorem wordLength?_take {t : Text} {n : Nat} (h : wordLength? t = some n) :
    wordLength? (t.take n) = some n := by
  rw [wordLength?_eq_some_iff] at h ⊢
  obtain ⟨rfl, pos⟩ := h
  rw [take_length_takeWhile, List.takeWhile_idem]
  exact ⟨rfl, pos⟩

/-! ### The first character of an open-ended token -/

theorem quotedLength?_of_ne {c : Char} {t : Text} (h : c ≠ '"') :
    quotedLength? (c :: t) = none := by
  unfold quotedLength?
  split <;> simp_all

theorem regexLength?_of_ne {c : Char} {t : Text} (h : c ≠ '/') : regexLength? (c :: t) = none := by
  unfold regexLength?
  split <;> simp_all

theorem tagListLength?_of_ne {c : Char} {t : Text} (h : c ≠ '#') :
    tagListLength? (c :: t) = none := by
  unfold tagListLength?
  split <;> simp_all

/-- The first character of a text says which kind of open-ended token it can start with. -/
theorem openEnded?_cons (c : Char) (t : Text) :
    openEnded? (c :: t) =
      if c = '"' then (quotedLength? (c :: t)).map (Token.quoted, ·)
      else if c = '/' then (regexLength? (c :: t)).map (Token.regex, ·)
      else if c = '#' then (tagListLength? (c :: t)).map (Token.tagList, ·)
      else (wordLength? (c :: t)).map (Token.word, ·) := by
  -- the three marks are no word characters, so that the kinds exclude each other
  have noWord : ∀ c ∈ ['"', '/', '#'], ∀ t : Text, wordLength? (c :: t) = none := by
    intro c hc t
    have special : ['"', '/', '#'].all (!Text.isWordChar ·) = true := by decide
    have : Text.isWordChar c = false := by simpa using List.all_eq_true.1 special c hc
    simp [wordLength?, this]
  unfold openEnded?
  split_ifs with h1 h2 h3
  · subst h1
    rw [regexLength?_of_ne (by decide), tagListLength?_of_ne (by decide), noWord _ (by decide)]
    simp
  · subst h2
    rw [quotedLength?_of_ne (by decide), tagListLength?_of_ne (by decide), noWord _ (by decide)]
    simp
  · subst h3
    rw [quotedLength?_of_ne (by decide), regexLength?_of_ne (by decide), noWord _ (by decide)]
    simp
  · rw [quotedLength?_of_ne h1, regexLength?_of_ne h2, tagListLength?_of_ne h3]
    rfl

/-- An open-ended token is found again if it stands alone. Its first character stays, and with it
the only kind that comes into question. -/
theorem openEnded?_take {t : Text} {token : Token} {n : Nat} (h : openEnded? t = some (token, n)) :
    openEnded? (t.take n) = some (token, n) := by
  obtain ⟨k, rfl⟩ := Nat.exists_eq_succ_of_ne_zero (Nat.ne_of_gt (openEnded?_pos h))
  cases t with
  | nil => simp [openEnded?, quotedLength?, regexLength?, tagListLength?, wordLength?] at h
  | cons c t =>
    rw [List.take_succ_cons]
    rw [openEnded?_cons] at h ⊢
    split_ifs at h ⊢ <;> simp only [Option.map_eq_some_iff, Prod.mk.injEq] at h ⊢ <;>
      obtain ⟨n, found, rfl, rfl⟩ := h <;> refine ⟨k + 1, ?_, rfl, rfl⟩
    · exact quotedLength?_take found
    · exact regexLength?_take found
    · exact tagListLength?_take found
    · exact wordLength?_take found

/-! ### The token at the start of a text -/

theorem startOf?_eq_some_iff {t : Text} {k : Keyword} :
    Keyword.startOf? t = some k ↔ k.literal <+: t := by
  have sound : ∀ j, Keyword.startOf? t = some j → j.literal <+: t := by
    intro j h
    unfold Keyword.startOf? at h
    simpa using List.find?_some h
  constructor
  · exact sound k
  · intro h
    cases found : Keyword.startOf? t with
    | none =>
      have := List.find?_eq_none.1 found k (Keyword.mem_list k)
      exact absurd (List.isPrefixOf_iff_prefix.2 h) this
    | some j =>
      -- of two keywords at the start one begins the other, so that they are the same
      rcases List.prefix_or_prefix_of_prefix (sound j found) h with jk | kj
      · rw [Keyword.eq_of_prefix (List.isPrefixOf_iff_prefix.2 jk)]
      · rw [Keyword.eq_of_prefix (List.isPrefixOf_iff_prefix.2 kj)]

theorem longest?_nil : longest? [] = none := by decide

/-- An open-ended token is the longest one exactly if no keyword of its length or longer starts the
text. -/
theorem longest?_eq_openEnded_iff {t : Text} {token : Token} {n : Nat}
    (open_ended : ∀ k, token ≠ .keyword k) :
    longest? t = some (token, n) ↔
      openEnded? t = some (token, n) ∧ ∀ k : Keyword, k.literal <+: t → k.literal.length < n := by
  simp only [← startOf?_eq_some_iff]
  unfold longest?
  cases hk : Keyword.startOf? t with
  | none => simp
  | some k =>
    cases ho : openEnded? t with
    | none => simpa using fun h => absurd h.symm (open_ended k)
    | some p =>
      obtain ⟨token', n'⟩ := p
      simp only [Option.some.injEq, forall_eq', Prod.mk.injEq]
      split_ifs with lt
      · simp only [Option.some.injEq, Prod.mk.injEq]
        constructor
        · rintro ⟨rfl, rfl⟩
          exact ⟨⟨rfl, rfl⟩, lt⟩
        · exact fun h => h.1
      · simp only [Option.some.injEq, Prod.mk.injEq]
        constructor
        · rintro ⟨h, -⟩
          exact absurd h.symm (open_ended k)
        · rintro ⟨⟨-, rfl⟩, h⟩
          exact absurd h lt

theorem longest?_take {t : Text} {token : Token} {n : Nat} (open_ended : ∀ k, token ≠ .keyword k)
    (h : longest? t = some (token, n)) : longest? (t.take n) = some (token, n) := by
  rw [longest?_eq_openEnded_iff open_ended] at h ⊢
  exact ⟨openEnded?_take h.1, fun k hk => h.2 k (hk.trans (List.take_prefix n t))⟩

/-! ### Reading on -/

namespace Cursor

theorem next_of_nil {c : Cursor} (h : c.skipGap.rest = []) : c.next = (none, c.skipGap) := by
  unfold next
  split
  · rfl
  · next rest => simp [h] at rest

theorem next_of_ne_nil {c : Cursor} (h : c.skipGap.rest ≠ []) :
    c.next = (some c.lexemeHere, c.skipGap.advance c.skipGap.tokenHere.2) := by
  unfold next
  split
  · next rest => exact absurd rest h
  · rfl

end Cursor

theorem lexemesFrom_of_none {c d : Cursor} (h : c.next = (none, d)) : lexemesFrom c = [] := by
  rw [lexemesFrom]
  split <;> simp_all

theorem lexemesFrom_of_some {c d : Cursor} {x : Lexeme} (h : c.next = (some x, d)) :
    lexemesFrom c = x :: lexemesFrom d := by
  rw [lexemesFrom]
  split <;> simp_all

/-! ### Reading a token again -/

theorem Cursor.skipGap_eq_self {c : Cursor} (h : ∀ a ∈ c.rest.head?, isGap a = false) :
    c.skipGap = c := by
  have none : c.rest.takeWhile isGap = [] := by
    cases hr : c.rest with
    | nil => rfl
    | cons a t => simp [h a (by simp [hr])]
  simp [skipGap, advance, none]

theorem Cursor.head?_skipGap (c : Cursor) : ∀ a ∈ c.skipGap.rest.head?, isGap a = false := by
  intro a ha
  have rest : c.skipGap.rest = c.rest.dropWhile isGap := by
    have split := List.prefix_iff_eq_append.1 (List.takeWhile_prefix isGap (l := c.rest))
    exact List.append_cancel_left (split.trans List.takeWhile_append_dropWhile.symm)
  rw [rest] at ha
  have := List.head?_dropWhile_not isGap c.rest
  rw [Option.mem_def.1 ha] at this
  simpa using this

/-- What a text without a gap at its start begins with is the next token. -/
theorem Cursor.next_of_longest? {c : Cursor} {token : Token} {n : Nat}
    (start : ∀ a ∈ c.rest.head?, isGap a = false) (h : longest? c.rest = some (token, n)) :
    c.next = (some ⟨token, c.position, c.rest.take n⟩, c.advance n) := by
  have here : c.tokenHere = (token, n) := by simp [tokenHere, h]
  unfold next
  simp only [lexemeHere, skipGap_eq_self start, here]
  split
  · next rest =>
    rw [rest, longest?_nil] at h
    simp at h
  · rfl

theorem Cursor.longest?_of_next {c d : Cursor} {x : Lexeme} (h : c.next = (some x, d))
    (sound : x.token ≠ .error) :
    ∃ n, longest? c.skipGap.rest = some (x.token, n) ∧ x.text = c.skipGap.rest.take n := by
  unfold next at h
  split at h
  · simp at h
  · simp only [Prod.mk.injEq, Option.some.injEq] at h
    obtain ⟨rfl, -⟩ := h
    simp only [lexemeHere, tokenHere] at sound ⊢
    cases found : longest? c.skipGap.rest with
    | none => simp [found] at sound
    | some p => exact ⟨p.2, rfl, rfl⟩

/-- An open-ended token that has been read is read again if it stands alone, and nothing is left
over. -/
theorem Cursor.next_alone {c d : Cursor} {x : Lexeme} (h : c.next = (some x, d))
    (open_ended : ∀ k, x.token ≠ .keyword k) (sound : x.token ≠ .error) :
    ∃ e, (Cursor.start x.text).next = (some { x with start := 0 }, e) ∧ e.rest = [] := by
  obtain ⟨n, found, text⟩ := longest?_of_next h sound
  have again : longest? (Cursor.start x.text).rest = some (x.token, n) := by
    rw [text]
    exact longest?_take open_ended found
  -- the first character is the one that stood behind the gap
  have gap : ∀ a ∈ (Cursor.start x.text).rest.head?, isGap a = false := by
    obtain ⟨k, rfl⟩ := Nat.exists_eq_succ_of_ne_zero (Nat.ne_of_gt (longest?_pos found))
    intro a ha
    refine c.head?_skipGap a ?_
    rw [Cursor.start, text, List.head?_take] at ha
    simpa using ha
  have all : (Cursor.start x.text).rest.take n = x.text := by
    simp [Cursor.start, text, List.take_take]
  refine ⟨(Cursor.start x.text).advance n, ?_, ?_⟩
  · rw [next_of_longest? gap again, all]
    rfl
  · simp [advance, Cursor.start, text]

/-! ### Search terms -/

/-- A delimited text ends with its closing mark. -/
theorem take_of_delimitedLength? {close : Char} {barred : Char → Bool} {t : Text} {n : Nat}
    (h : delimitedLength? close barred t = some n) : ∃ s, t.take n = s ++ [close] := by
  induction t using delimitedLength?.induct close barred generalizing n with
  | case1 => simp [delimitedLength?] at h
  | case2 => simp [delimitedLength?] at h
  | case3 t => simp [delimitedLength?] at h
  | case4 c t hc ih =>
    simp only [delimitedLength?, if_neg hc, Option.map_eq_some_iff] at h
    obtain ⟨m, hm, rfl⟩ := h
    obtain ⟨s, hs⟩ := ih hm
    exact ⟨'\\' :: c :: s, by simp [hs]⟩
  | case5 t h1 h2 =>
    rw [delimitedLength?_cons t (ne_backslash h1 h2), if_pos rfl] at h
    obtain rfl := Option.some.inj h
    exact ⟨[], rfl⟩
  | case6 c t h1 h2 hc hbar =>
    rw [delimitedLength?_cons t (ne_backslash h1 h2), if_neg hc, if_pos hbar] at h
    simp at h
  | case7 c t h1 h2 hc hbar ih =>
    rw [delimitedLength?_cons t (ne_backslash h1 h2), if_neg hc, if_neg hbar,
      Option.map_eq_some_iff] at h
    obtain ⟨m, hm, rfl⟩ := h
    obtain ⟨s, hs⟩ := ih hm
    exact ⟨c :: s, by simp [hs]⟩

/-- Whether a lexeme looks as its token has it: a quoted string stands between quotes, a regular
expression between slashes, and a word is made of word characters. -/
def Lexeme.WellFormed (x : Lexeme) : Prop :=
  match x.token with
  | .quoted => ∃ s, x.text = '"' :: (s ++ ['"'])
  | .regex => ∃ s, x.text = '/' :: (s ++ ['/'])
  | .word => x.text ≠ [] ∧ ∀ c ∈ x.text, Text.isWordChar c = true
  | _ => True

theorem wellFormed_of_openEnded? {t : Text} {token : Token} {n : Nat}
    (h : openEnded? t = some (token, n)) (position : Nat) :
    Lexeme.WellFormed ⟨token, position, t.take n⟩ := by
  simp only [openEnded?, Option.or_eq_some_iff, Option.map_eq_some_iff, Prod.mk.injEq] at h
  rcases h with
    ⟨m, h, rfl, rfl⟩ | ⟨-, ⟨m, h, rfl, rfl⟩ | ⟨-, ⟨m, h, rfl, rfl⟩ | ⟨-, m, h, rfl, rfl⟩⟩⟩
  · unfold quotedLength? at h
    split at h
    · obtain ⟨k, hk, rfl⟩ := Option.map_eq_some_iff.1 h
      obtain ⟨s, hs⟩ := take_of_delimitedLength? hk
      exact ⟨s, by rw [List.take_succ_cons, hs]⟩
    · simp at h
  · unfold regexLength? at h
    split at h
    · obtain ⟨k, hk, rfl⟩ := Option.map_eq_some_iff.1 h
      obtain ⟨s, hs⟩ := take_of_delimitedLength? hk
      exact ⟨s, by rw [List.take_succ_cons, hs]⟩
    · simp at h
  · trivial
  · obtain ⟨rfl, pos⟩ := wordLength?_eq_some_iff.1 h
    have same := take_length_takeWhile Text.isWordChar t
    refine ⟨?_, fun c hc => ?_⟩
    · simpa [same] using List.ne_nil_of_length_pos pos
    · exact List.mem_takeWhile_imp (same ▸ hc)

theorem Cursor.wellFormed_of_next {c d : Cursor} {x : Lexeme} (h : c.next = (some x, d)) :
    x.WellFormed := by
  by_cases keyword : ∃ k, x.token = .keyword k
  · obtain ⟨k, hk⟩ := keyword
    simp [Lexeme.WellFormed, hk]
  · by_cases error : x.token = .error
    · simp [Lexeme.WellFormed, error]
    · obtain ⟨n, found, text⟩ := longest?_of_next h error
      rw [longest?_eq_openEnded_iff fun k hk => keyword ⟨k, hk⟩] at found
      have := wellFormed_of_openEnded? found.1 x.start
      rwa [← text] at this

theorem wellFormed_of_mem {c : Cursor} {x : Lexeme} (mem : x ∈ lexemesFrom c) : x.WellFormed := by
  induction c using lexemesFrom.induct with
  | case1 c d found => simp [lexemesFrom_of_none found] at mem
  | case2 c y d found ih =>
    rw [lexemesFrom_of_some found] at mem
    rcases List.mem_cons.1 mem with rfl | mem
    · exact Cursor.wellFormed_of_next found
    · exact ih mem

namespace SearchTerm

/-- A search term is written as the lexeme it was read from. -/
theorem text_of_ofLexeme {x : Lexeme} {term : SearchTerm} (form : x.WellFormed)
    (h : ofLexeme x = .ok term) : term.text = x.text := by
  unfold ofLexeme at h
  split at h
  · next token =>
    simp only [Lexeme.WellFormed, token] at form
    obtain ⟨s, hs⟩ := form
    split at h
    · next r found =>
      obtain rfl := Except.ok.inj h
      rw [text, Regex.source_of_ofText? found, hs, Text.inner_enclosed]
    · simp at h
  · next token =>
    simp only [Lexeme.WellFormed, token] at form
    obtain ⟨s, hs⟩ := form
    obtain rfl := Except.ok.inj h
    rw [text, hs, Text.inner_enclosed]
  · obtain rfl := Except.ok.inj h
    rfl
  · simp at h

theorem token_of_ofLexeme {x : Lexeme} {term : SearchTerm} (h : ofLexeme x = .ok term) :
    x.token = .quoted ∨ x.token = .regex ∨ x.token = .word := by
  unfold ofLexeme at h
  split at h <;> simp_all

/-- Blanks stand only inside of quotes and slashes. -/
theorem isLine_of_ofLexeme {x : Lexeme} {term : SearchTerm} (form : x.WellFormed)
    (h : ofLexeme x = .ok term) : Text.IsLine x.text := by
  unfold Lexeme.WellFormed at form
  rcases token_of_ofLexeme h with token | token | token <;> simp only [token] at form
  · obtain ⟨s, hs⟩ := form
    rw [hs]
    exact Text.isLine_enclosed (by decide) (by decide)
  · obtain ⟨s, hs⟩ := form
    rw [hs]
    exact Text.isLine_enclosed (by decide) (by decide)
  · exact Text.IsWord.isLine ⟨form.1, fun c hc => Text.isBlank_of_isWordChar (form.2 c hc)⟩

/-- Where a search term stands only matters in its errors. -/
theorem ofLexeme_start {x : Lexeme} {term : SearchTerm} (start : Nat) (h : ofLexeme x = .ok term) :
    ofLexeme { x with start } = .ok term := by
  unfold ofLexeme at h ⊢
  simp only
  split at h
  · next token =>
    simp only [token]
    split at h
    · exact h
    · simp at h
  · next token => simpa only [token] using h
  · next token => simpa only [token] using h
  · simp at h

/-- A search term that has been read is read again from its written form, which is a line. -/
theorem next_text {c d : Cursor} {x : Lexeme} {term : SearchTerm} (h : c.next = (some x, d))
    (found : ofLexeme x = .ok term) :
    Text.IsLine term.text ∧
      ∃ y e, (Cursor.start term.text).next = (some y, e) ∧ e.rest = [] ∧ ofLexeme y = .ok term := by
  have form := Cursor.wellFormed_of_next h
  have token := token_of_ofLexeme found
  obtain ⟨e, alone, rest⟩ := Cursor.next_alone h (by rintro k hk; simp [hk] at token)
    (by rintro hx; simp [hx] at token)
  rw [text_of_ofLexeme form found]
  exact ⟨isLine_of_ofLexeme form found, { x with start := 0 }, e, alone, rest,
    ofLexeme_start 0 found⟩

end SearchTerm

end FeedReader.Query
