import FeedReader.Proofs.Query.Languages

/-!
# Tokens tile a text

The tokens of a query, with the gaps between them, make up the whole query, and each token is the
longest one that starts at its place.

* `tokenLengths`, `IsLongest`, and `isLongest_of_longest?`;
* `Cursor.IsIn`: a place in a text, and what a call of `Cursor.next` finds there;
* `Lexeme.StandsIn`: a lexeme at its place in a text;
* `Tiling`: lexemes and gaps from a place on, and `tiling_lexemesFrom`;
* `Cursor.afterCalls`, `Cursor.span`: repeated calls, and what part of the text a call was about;
* `tiling_tokenize`.
-/

namespace FeedReader.Query

/-! ### The longest token at a place -/

/-- The lengths of the tokens at the start of a text. -/
def tokenLengths (t : Text) : Set Nat :=
  {n | 1 ≤ n ∧ n ≤ t.length ∧ ∃ token : Token, t.take n ∈ token.language}

/-- No token at the start of a text is longer; a keyword comes first, and of the open-ended kinds
there is one only. -/
structure IsLongest (t : Text) (token : Token) (n : Nat) : Prop where
  greatest : IsGreatest (tokenLengths t) n
  mem : t.take n ∈ token.language
  keyword : ∀ k : Keyword, t.take n = k.literal → token = .keyword k
  unique : ∀ other : Token, t.take n ∈ other.language → other = token ∨ ∃ k, token = .keyword k

theorem isLongest_of_longest? {t : Text} {token : Token} {n : Nat}
    (h : longest? t = some (token, n)) : IsLongest t token n := by
  have pos := longest?_pos h
  obtain ⟨found, greatest, keyword⟩ := length?_of_longest? h
  have mem := (Token.length?_eq_some_iff.1 found).1
  have upper : n ∈ upperBounds (tokenLengths t) := by
    rintro m ⟨-, le, other, hm⟩
    obtain ⟨k, hk, reach⟩ := exists_length?_of_mem ⟨le, hm⟩
    exact reach.trans (greatest other k hk)
  refine ⟨⟨⟨pos, mem.1, token, mem.2⟩, upper⟩, mem.2, ?_, ?_⟩
  · intro k hk
    refine keyword k (keyword_length?_eq_some_iff.2 ⟨hk ▸ List.take_prefix n t, ?_⟩)
    rw [← hk, List.length_take_of_le mem.1]
  · intro other hother
    obtain ⟨m, hm, reach⟩ := exists_length?_of_mem ⟨mem.1, hother⟩
    obtain rfl : n = m := Nat.le_antisymm reach (greatest other m hm)
    by_cases h : ∃ k, token = .keyword k
    · exact .inr h
    · -- both are open-ended, as a keyword would have come first
      left
      have first : ∀ k, other ≠ .keyword k := by
        rintro k rfl
        exact h ⟨k, keyword k hm⟩
      have one := openEnded?_eq_some_iff.2 ⟨first, hm⟩
      have two := openEnded?_eq_some_iff.2 ⟨fun k hk => h ⟨k, hk⟩, found⟩
      simpa using one.symm.trans two

theorem IsLongest.ne_error {t : Text} {token : Token} {n : Nat} (h : IsLongest t token n) :
    token ≠ .error := by
  rintro rfl
  exact h.mem.elim

theorem tokenLengths_eq_empty_iff {t : Text} : tokenLengths t = ∅ ↔ longest? t = none := by
  constructor
  · intro h
    by_contra some
    obtain ⟨⟨token, n⟩, found⟩ := Option.ne_none_iff_exists'.1 some
    exact Set.notMem_empty n (h ▸ (isLongest_of_longest? found).greatest.1)
  · intro h
    refine Set.eq_empty_of_forall_notMem ?_
    rintro m ⟨-, le, token, hm⟩
    obtain ⟨n, hn, -⟩ := exists_length?_of_mem ⟨le, hm⟩
    simp [longest?_eq_none_iff.1 h token] at hn

/-! ### Places in a text -/

namespace Cursor

/-- Whether a place is one in a text. -/
structure IsIn (t : Text) (c : Cursor) : Prop where
  within : c.position ≤ t.length
  rest : c.rest = t.drop c.position

theorem isIn_start (t : Text) : (start t).IsIn t := ⟨Nat.zero_le _, rfl⟩

theorem IsIn.length_rest {t : Text} {c : Cursor} (h : c.IsIn t) :
    c.rest.length = t.length - c.position := by
  rw [h.rest, List.length_drop]

theorem IsIn.advance {t : Text} {c : Cursor} (h : c.IsIn t) {n : Nat} (le : n ≤ c.rest.length) :
    (c.advance n).IsIn t := by
  constructor
  · show c.position + n ≤ t.length
    have := h.within
    rw [h.length_rest] at le
    omega
  · show c.rest.drop n = t.drop (c.position + n)
    rw [h.rest, List.drop_drop]

theorem IsIn.skipGap {t : Text} {c : Cursor} (h : c.IsIn t) : c.skipGap.IsIn t :=
  h.advance (List.takeWhile_prefix _).length_le

/-- Between a place and the next token there are gap characters only. -/
theorem IsIn.isGap_of_lt {t : Text} {c : Cursor} (h : c.IsIn t) {i : Nat} {a : Char}
    (le : c.position ≤ i) (lt : i < c.skipGap.position) (ha : t[i]? = some a) : isGap a = true := by
  obtain ⟨j, rfl⟩ := Nat.exists_eq_add_of_le le
  have lt : j < (c.rest.takeWhile isGap).length := Nat.lt_of_add_lt_add_left lt
  have here : c.rest[j]? = some a := by rw [h.rest, List.getElem?_drop, ha]
  have gap : (c.rest.takeWhile isGap)[j]? = some a := by
    rw [← take_length_takeWhile, List.getElem?_take_of_lt lt, here]
  exact List.mem_takeWhile_imp (List.mem_of_getElem? gap)

end Cursor

/-! ### Lexemes at their places -/

/-- Whether a lexeme is what a text has at its place: the longest token that starts there, or one
character where no token starts. -/
structure Lexeme.StandsIn (t : Text) (x : Lexeme) : Prop where
  nonempty : x.start < x.stop
  within : x.stop ≤ t.length
  text : x.text = (t.drop x.start).take (x.stop - x.start)
  solid : ∀ a ∈ x.text.head?, isGap a = false
  longest : x.token ≠ .error → IsLongest (t.drop x.start) x.token (x.stop - x.start)
  error : x.token = .error ↔ tokenLengths (t.drop x.start) = ∅
  single : x.token = .error → x.stop = x.start + 1

namespace Cursor

theorem tokenHere_of_longest? {c : Cursor} {token : Token} {n : Nat}
    (h : longest? c.rest = some (token, n)) : c.tokenHere = (token, n) := by
  simp [tokenHere, h]

theorem tokenHere_of_none {c : Cursor} (h : longest? c.rest = none) :
    c.tokenHere = (.error, 1) := by
  simp [tokenHere, h]

theorem tokenHere_le {c : Cursor} (h : c.rest ≠ []) : c.tokenHere.2 ≤ c.rest.length := by
  cases found : longest? c.rest with
  | none =>
    rw [tokenHere_of_none found]
    exact List.length_pos_iff.2 h
  | some p =>
    rw [tokenHere_of_longest? found]
    exact (isLongest_of_longest? found).greatest.1.2.1

theorem stop_lexemeHere {c : Cursor} (h : c.skipGap.rest ≠ []) :
    c.lexemeHere.stop = c.skipGap.position + c.skipGap.tokenHere.2 := by
  rw [Lexeme.stop, lexemeHere, List.length_take_of_le (tokenHere_le h)]

theorem IsIn.standsIn {t : Text} {c : Cursor} (h : c.IsIn t) (more : c.skipGap.rest ≠ []) :
    c.lexemeHere.StandsIn t := by
  have here := h.skipGap
  have stop := stop_lexemeHere more
  have le := tokenHere_le more
  have pos := c.skipGap.tokenHere_pos
  have start : c.lexemeHere.start = c.skipGap.position := rfl
  have size : c.lexemeHere.stop - c.lexemeHere.start = c.skipGap.tokenHere.2 := by omega
  have rest : t.drop c.lexemeHere.start = c.skipGap.rest := here.rest.symm
  constructor
  · omega
  · have := here.within
    have := here.length_rest
    omega
  · rw [size, rest]
    rfl
  · intro a ha
    refine c.head?_skipGap a ?_
    rw [lexemeHere, List.head?_take, if_neg (by omega)] at ha
    exact ha
  · rw [size, rest]
    cases found : longest? c.skipGap.rest with
    | none => simp [lexemeHere, tokenHere_of_none found]
    | some p =>
      intro _
      rw [lexemeHere, tokenHere_of_longest? found]
      exact isLongest_of_longest? found
  · rw [rest, tokenLengths_eq_empty_iff]
    cases found : longest? c.skipGap.rest with
    | none => simp [lexemeHere, tokenHere_of_none found]
    | some p =>
      simpa [lexemeHere, tokenHere_of_longest? found] using (isLongest_of_longest? found).ne_error
  · intro error
    cases found : longest? c.skipGap.rest with
    | none => rw [stop, tokenHere_of_none found, start]
    | some p =>
      rw [lexemeHere, tokenHere_of_longest? found] at error
      exact absurd error (isLongest_of_longest? found).ne_error

/-- A call that finds nothing has come to the end of the text. -/
theorem IsIn.position_of_none {t : Text} {c d : Cursor} (h : c.IsIn t) (none : c.next = (none, d)) :
    d = c.skipGap ∧ d.position = t.length ∧ d.rest = [] := by
  by_cases more : c.skipGap.rest = []
  · rw [next_of_nil more] at none
    obtain rfl := (Prod.mk.inj none).2
    have here := h.skipGap
    have empty : c.skipGap.rest.length = 0 := by rw [more]; rfl
    have := here.length_rest
    have := here.within
    exact ⟨rfl, by omega, more⟩
  · simp [next_of_ne_nil more] at none

/-- A call that finds a lexeme has come to its end. -/
theorem IsIn.stop_of_some {t : Text} {c d : Cursor} {x : Lexeme} (h : c.IsIn t)
    (some : c.next = (some x, d)) :
    x.StandsIn t ∧ x.start = c.skipGap.position ∧ d.position = x.stop ∧ d.IsIn t := by
  by_cases more : c.skipGap.rest = []
  · simp [next_of_nil more] at some
  · rw [next_of_ne_nil more] at some
    obtain ⟨same, rfl⟩ := Prod.mk.inj some
    obtain rfl := Option.some.inj same
    exact ⟨h.standsIn more, rfl, (stop_lexemeHere more).symm, h.skipGap.advance (tokenHere_le more)⟩

theorem IsIn.next {t : Text} {c : Cursor} (h : c.IsIn t) : c.next.2.IsIn t := by
  rcases found : c.next with ⟨_ | x, d⟩
  · obtain ⟨rfl, -⟩ := h.position_of_none found
    exact h.skipGap
  · exact (h.stop_of_some found).2.2.2

end Cursor

/-! ### Tilings -/

/-- Lexemes that make up a text from a place on, with gaps of spaces, tabs, line feeds and form
feeds before, between and after them. -/
structure Tiling (t : Text) (position : Nat) (xs : List Lexeme) : Prop where
  stands : ∀ x ∈ xs, x.StandsIn t
  after : ∀ x ∈ xs, position ≤ x.start
  apart : xs.Pairwise fun x y => x.stop ≤ y.start
  gaps : ∀ i ≥ position, ∀ a, t[i]? = some a → (∀ x ∈ xs, ¬(x.start ≤ i ∧ i < x.stop)) →
    isGap a = true

theorem Tiling.nil {t : Text} {position : Nat}
    (gap : ∀ i ≥ position, ∀ a, t[i]? = some a → isGap a = true) : Tiling t position [] where
  stands := by simp
  after := by simp
  apart := List.Pairwise.nil
  gaps := fun i le a ha _ => gap i le a ha

theorem Tiling.cons {t : Text} {position : Nat} {x : Lexeme} {xs : List Lexeme}
    (stands : x.StandsIn t) (le : position ≤ x.start)
    (gap : ∀ i ≥ position, i < x.start → ∀ a, t[i]? = some a → isGap a = true)
    (rest : Tiling t x.stop xs) : Tiling t position (x :: xs) where
  stands := List.forall_mem_cons.2 ⟨stands, rest.stands⟩
  after := by
    have := stands.nonempty
    refine List.forall_mem_cons.2 ⟨le, fun y hy => ?_⟩
    have := rest.after y hy
    omega
  apart := List.pairwise_cons.2 ⟨rest.after, rest.apart⟩
  gaps := by
    intro i hi a ha free
    obtain ⟨here, later⟩ := List.forall_mem_cons.1 free
    by_cases before : i < x.start
    · exact gap i hi before a ha
    · exact rest.gaps i (by omega) a ha later

/-- The lexemes from a place on make up the text from there. -/
theorem tiling_lexemesFrom {t : Text} {c : Cursor} (h : c.IsIn t) :
    Tiling t c.position (lexemesFrom c) := by
  induction c using lexemesFrom.induct with
  | case1 c d found =>
    rw [lexemesFrom_of_none found]
    refine Tiling.nil fun i hi a ha => ?_
    obtain ⟨rfl, stop, -⟩ := h.position_of_none found
    have lt : i < t.length := (List.getElem?_eq_some_iff.1 ha).1
    exact h.isGap_of_lt hi (stop ▸ lt) ha
  | case2 c x d found ih =>
    rw [lexemesFrom_of_some found]
    obtain ⟨stands, start, stop, inside⟩ := h.stop_of_some found
    refine Tiling.cons stands ?_ ?_ (stop ▸ ih inside)
    · rw [start]
      exact Nat.le_add_right ..
    · intro i hi lt a ha
      exact h.isGap_of_lt hi (start ▸ lt) ha

/-! ### Repeated calls -/

namespace Cursor

/-- The place after a number of calls of `next`. -/
def afterCalls (c : Cursor) : Nat → Cursor
  | 0 => c
  | n + 1 => (c.afterCalls n).next.2

/-- The part of the text that a call of `next` was about: the lexeme it found, or nothing at the
place where it looked for one. -/
def span : Option Lexeme × Cursor → Nat × Nat
  | (some x, _) => (x.start, x.stop)
  | (none, c) => (c.position, c.position)

theorem afterCalls_succ (c : Cursor) (n : Nat) : c.afterCalls (n + 1) = c.next.2.afterCalls n := by
  induction n with
  | zero => rfl
  | succ n ih => rw [afterCalls, ih, afterCalls]

theorem IsIn.afterCalls {t : Text} {c : Cursor} (h : c.IsIn t) (n : Nat) :
    (c.afterCalls n).IsIn t := by
  induction n with
  | zero => exact h
  | succ n ih => exact ih.next

/-- The calls find one lexeme after the other, and then nothing any more. -/
theorem IsIn.next_afterCalls {t : Text} {c : Cursor} (h : c.IsIn t) (n : Nat) :
    (c.afterCalls n).next.1 = (lexemesFrom c)[n]? := by
  induction n generalizing c with
  | zero =>
    show c.next.1 = (lexemesFrom c)[0]?
    rcases found : c.next with ⟨_ | x, d⟩
    · rw [lexemesFrom_of_none found]
      rfl
    · rw [lexemesFrom_of_some found]
      rfl
  | succ n ih =>
    rw [afterCalls_succ, ih h.next]
    rcases found : c.next with ⟨_ | x, d⟩
    · obtain ⟨rfl, -, rest⟩ := h.position_of_none found
      have again : c.skipGap.skipGap.rest = [] := by
        rw [skipGap_eq_self c.head?_skipGap, rest]
      rw [lexemesFrom_of_none found, lexemesFrom_of_none (next_of_nil again)]
      rfl
    · rw [lexemesFrom_of_some found]
      rfl

end Cursor

/-- Calling for the next token again and again gives the lexemes of a tiling, one after the other.
After the last one every call finds nothing, at the end of the text. -/
theorem tiling_tokenize (t : Text) :
    Tiling t 0 (tokenize t) ∧
      ∀ n, let call := ((Cursor.start t).afterCalls n).next
        match (tokenize t)[n]? with
        | some x => call.1 = some x ∧ Cursor.span call = (x.start, x.stop)
        | none => call.1 = none ∧ Cursor.span call = (t.length, t.length) := by
  have start := Cursor.isIn_start t
  refine ⟨tiling_lexemesFrom start, fun n => ?_⟩
  have found := start.next_afterCalls n
  rcases call : ((Cursor.start t).afterCalls n).next with ⟨_ | x, d⟩
  · have none : (tokenize t)[n]? = none := by rw [tokenize, ← found, call]
    have stop := ((start.afterCalls n).position_of_none call).2.1
    simp [none, Cursor.span, stop]
  · have some : (tokenize t)[n]? = some x := by rw [tokenize, ← found, call]
    simp [some, Cursor.span]

end FeedReader.Query
