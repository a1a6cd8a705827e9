import FeedReader.Proofs.Query.Bounds
import FeedReader.Proofs.Query.Joining
import FeedReader.Proofs.SortOrder.Lines
import FeedReader.Proofs.TimeExpr.Iso

/-!
# Written queries are read again

What a clause is written as makes up tokens that do not depend on what stands before it, and these
are read as the clause that it was written for.

* `longest?_opens`, `tokenize_opens`, `tokenize_negated`: the tokens of a written condition;
* `longest?_quoted`, `text_tagLabels`: quoted texts, and the labels of tag lists;
* `ReadsAs`: a text that is read as an item wherever it stands, with the cases `readsAs_bound`,
  `readsAs_field`, `readsAs_tag` and `readsAs_of_origin`;
* `Lexeme.Whole`, `whole_of_mem`: open-ended tokens are the tokens of their own texts;
* `Clause.Same`, `exists_readWith_text`: a written clause is read as the same clause;
* `origins_of_readFrom`: the conditions of a query come from its tokens;
* `written`, `readWith_joinWith`, `read_written`.
-/

namespace FeedReader.Query

/-! ### Tokens of written conditions -/

/-- A text that starts with a gap starts with no token. -/
theorem longest?_of_isGap {c : Char} (gap : isGap c = true) (t : Text) :
    longest? (c :: t) = none := by
  obtain ⟨noWord, -⟩ := ne_of_isBlank (isBlank_of_isGap gap)
  have keyword : Keyword.startOf? (c :: t) = none :=
    startOf?_append (s := []) (isBlank_of_isGap gap) t
  have marks : c ≠ '"' ∧ c ≠ '/' ∧ c ≠ '#' := by
    rcases isGap_iff.1 gap with rfl | rfl | rfl | rfl <;> decide
  have word : wordLength? (c :: t) = none := by simp [wordLength?, noWord]
  rw [longest?, keyword, openEnded?_cons, if_neg marks.1, if_neg marks.2.1, if_neg marks.2.2, word]
  rfl

theorem isGap_head? {t : Text} {p : Token × Nat} (h : longest? t = some p) :
    ∀ c ∈ t.head?, isGap c = false := by
  intro c hc
  obtain ⟨s, rfl⟩ := List.head?_eq_some_iff.1 hc
  by_contra gap
  rw [longest?_of_isGap (by simpa using gap)] at h
  simp at h

/-- A text that is one token. -/
theorem lexemesFrom_whole {token : Token} {t : Text} (h : longest? t = some (token, t.length))
    (p : Nat) : lexemesFrom ⟨p, t⟩ = [⟨token, p, t⟩] := by
  rw [lexemesFrom_token (isGap_head? h) h, List.take_length, List.drop_length, lexemesFrom_nil]

theorem longest?_literal (k : Keyword) :
    longest? k.literal = some (.keyword k, k.literal.length) := by
  have all : ∀ k ∈ Keyword.list, longest? k.literal = some (.keyword k, k.literal.length) := by
    decide +kernel
  exact all k (Keyword.mem_list k)

theorem tokenize_literal (k : Keyword) : tokenize k.literal = [⟨.keyword k, 0, k.literal⟩] :=
  lexemesFrom_whole (longest?_literal k) 0

/-- Whether a keyword ends with a colon, so that no word goes on behind it. -/
def Keyword.Opens (k : Keyword) : Prop := ∃ name, k.literal = name ++ [':']

theorem length_takeWhile_le {p : Char → Bool} {c : Char} (hc : p c = false) (s u : Text) :
    ((s ++ c :: u).takeWhile p).length ≤ s.length := by
  rw [List.takeWhile_append]
  split
  · simp [hc]
  · exact (List.takeWhile_prefix p).length_le

/-- The marks that open-ended tokens start with start no keyword. -/
theorem openEnded?_of_keyword {t : Text} {k : Keyword} (h : k.literal <+: t) :
    openEnded? t = (wordLength? t).map (Token.word, ·) := by
  have marks : ∀ k ∈ Keyword.list, ['"', '/', '#'].all (k.literal.head? != some ·) := by decide
  obtain ⟨c, s, literal⟩ :=
    List.exists_cons_of_ne_nil (List.ne_nil_of_length_pos k.literal_length_pos)
  obtain ⟨u, rfl⟩ := h
  obtain ⟨quote, slash, mark⟩ : c ≠ '"' ∧ c ≠ '/' ∧ c ≠ '#' := by
    simpa [literal] using marks k (Keyword.mem_list k)
  rw [literal, List.cons_append, openEnded?_cons, if_neg quote, if_neg slash, if_neg mark]

theorem longest?_opens {k : Keyword} (opens : k.Opens) (u : Text) :
    longest? (k.literal ++ u) = some (.keyword k, k.literal.length) := by
  have start : Keyword.startOf? (k.literal ++ u) = some k :=
    startOf?_eq_some_iff.2 (List.prefix_append _ _)
  rw [longest?, start, openEnded?_of_keyword (List.prefix_append _ _)]
  cases word : wordLength? (k.literal ++ u) with
  | none => rfl
  | some n =>
    -- the word ends before the colon
    obtain ⟨name, literal⟩ := opens
    have short : n ≤ name.length := by
      rw [← (wordLength?_eq_some_iff.1 word).1, literal, List.append_assoc]
      exact length_takeWhile_le (by decide) name u
    exact if_neg (by rw [literal, List.length_append]; simp; omega)

/-- A keyword and the token that it opens. -/
theorem tokenize_opens {k : Keyword} (opens : k.Opens) {token : Token} {u : Text}
    (h : longest? u = some (token, u.length)) :
    tokenize (k.literal ++ u) = [⟨.keyword k, 0, k.literal⟩, ⟨token, k.literal.length, u⟩] := by
  have first := longest?_opens opens u
  rw [tokenize, Cursor.start, lexemesFrom_token (isGap_head? first) first, List.take_left,
    List.drop_left, lexemesFrom_whole h, Nat.zero_add]

/-- A sign before a text. -/
theorem tokenize_negated (t : Text) :
    tokenize ('~' :: t) = ⟨.keyword .negate, 0, ['~']⟩ :: (tokenize t).map (Lexeme.shift 1) := by
  have first : longest? ('~' :: t) = some (.keyword .negate, 1) := by
    have start : Keyword.startOf? ('~' :: t) = some .negate :=
      startOf?_eq_some_iff.2 ⟨t, rfl⟩
    have noWord : Text.isWordChar '~' = false := by decide
    have word : wordLength? ('~' :: t) = none := by simp [wordLength?, noWord]
    rw [longest?, start, openEnded?_of_keyword (startOf?_eq_some_iff.1 start), word]
    rfl
  rw [tokenize, Cursor.start, lexemesFrom_token (isGap_head? first) first, tokenize, Cursor.start,
    ← lexemesFrom_shift]
  rfl

/-! ### Quoted texts and tag lists -/

/-- Whether a text stands between quotes as it is. -/
def Unescaped (t : Text) : Prop := ∀ c ∈ t, c ∉ ['"', '\\', '\n', '\r']

theorem longest?_quoted {t : Text} (h : Unescaped t) :
    longest? ('"' :: (t ++ ['"'])) = some (.quoted, ('"' :: (t ++ ['"'])).length) := by
  refine longest?_of_mem_quoted (mem_delimited_iff.2 ⟨t, rfl, ?_⟩)
  induction t with
  | nil => exact Chain.nil
  | cons c t ih =>
    obtain ⟨hc, ht⟩ := List.forall_mem_cons.1 h
    exact Chain.char (by simp_all) (ih ht)

/-- What follows the first letter of a tag list has a mark behind each of its commas. -/
theorem splitAtEach_of_chain {t : Text} (h : TagChain t) :
    ∃ (name : Text) (names : List Text),
      Text.splitAtEach ',' t = name :: names.map ('#' :: ·) := by
  induction h with
  | nil => exact ⟨[], [], rfl⟩
  | @char c t hc _ ih =>
    obtain ⟨name, names, split⟩ := ih
    have comma : c ≠ ',' := by rintro rfl; exact absurd hc (by decide)
    exact ⟨c :: name, names, by simp [Text.splitAtEach, comma, split]⟩
  | @separated s t hs _ ih =>
    obtain ⟨c, rfl, hc⟩ := mem_tagSeparator.1 hs
    obtain ⟨name, names, split⟩ := ih
    have comma : c ≠ ',' := by rintro rfl; exact absurd hc (by decide)
    exact ⟨[], (c :: name) :: names, by simp [Text.splitAtEach, comma, split]⟩

/-- The labels of a tag list are written as the tag list. -/
theorem text_tagLabels {t : Text} (h : t ∈ Token.tagList.language) :
    Text.joinWith "," ((tagLabels t).map ('#' :: ·)) = t := by
  obtain ⟨c, u, rfl, hc, hu⟩ := mem_tagList.1 h
  obtain ⟨name, names, split⟩ := splitAtEach_of_chain hu
  have comma : c ≠ ',' := by rintro rfl; exact absurd hc (by decide)
  have pieces : Text.splitAtEach ',' ('#' :: c :: u) = (((c :: name) :: names).map ('#' :: ·)) := by
    simp [Text.splitAtEach, comma, split]
  have same : (tagLabels ('#' :: c :: u)).map ('#' :: ·) =
      Text.splitAtEach ',' ('#' :: c :: u) := by
    simp [tagLabels, pieces]
  rw [same]
  exact Text.joinWith_splitAtEach ',' _

/-! ### Reading one condition -/

variable {now : Moment}

/-- Whether a text is read as an item, whether a sign stands before it or not. -/
def ReadsAs (now : Moment) (t : Text) (item : Item) : Prop :=
  ∀ negated (p : Progress), p.sort = none →
    readFrom now t.length negated p (tokenize t) = .ok (p.take negated item)

theorem readsAs_of_tokens {t : Text} {x : Lexeme} {taken : List Lexeme} {item : Item}
    (tokens : tokenize t = x :: taken) (key : x.token ≠ .keyword .negate)
    (reads : ∀ length, readItem now length none x taken = .ok (item, [])) :
    ReadsAs now t item := by
  intro negated p unsorted
  rw [tokens, readFrom_cons key, unsorted, reads]
  exact readFrom_nil ..

/-- A keyword that stands for a condition by itself. -/
theorem readsAs_literal {k : Keyword} (key : k ≠ .negate) {item : Item}
    (reads : ∀ length, readItem now length none ⟨.keyword k, 0, k.literal⟩ [] = .ok (item, [])) :
    ReadsAs now k.literal item :=
  readsAs_of_tokens (tokenize_literal k) (by simpa using key) reads

/-- A keyword and the token that it opens. -/
theorem readsAs_opens {k : Keyword} (opens : k.Opens) {token : Token} {u : Text} {item : Item}
    (whole : longest? u = some (token, u.length))
    (reads : ∀ length, readItem now length none ⟨.keyword k, 0, k.literal⟩
      [⟨token, k.literal.length, u⟩] = .ok (item, [])) :
    ReadsAs now (k.literal ++ u) item := by
  have key : k ≠ .negate := by
    rintro rfl
    obtain ⟨name, literal⟩ := opens
    have last : Keyword.negate.literal.getLast? = some ':' := by rw [literal, List.getLast?_concat]
    exact absurd last (by decide)
  exact readsAs_of_tokens (tokenize_opens opens whole) (by simpa using key) reads

theorem ReadsAs.negated {t : Text} {item : Item} (h : ReadsAs now t item) (p : Progress)
    (unsorted : p.sort = none) :
    readFrom now ('~' :: t).length false p (tokenize ('~' :: t)) = .ok (p.take true item) := by
  have length : ('~' :: t).length = 1 + t.length := Nat.add_comm ..
  rw [tokenize_negated, readFrom_cons_of_negate rfl, if_neg Bool.false_ne_true, length,
    readFrom_shift, h true p unsorted]
  rfl

/-! ### Conditions that have been read -/

/-- Whether a lexeme is the token that its text starts with, if it is an open-ended one. -/
def Lexeme.Whole (x : Lexeme) : Prop :=
  x.token ≠ .error → (∀ k, x.token ≠ .keyword k) →
    longest? x.text = some (x.token, x.text.length)

theorem whole_of_mem (p : Nat) (t : Text) : ∀ x ∈ lexemesFrom ⟨p, t⟩, x.Whole := by
  induction t using lexing_induction generalizing p with
  | nil =>
    rw [lexemesFrom_nil]
    exact List.forall_mem_nil _
  | gap c t hc ih =>
    rw [lexemesFrom_gap hc]
    exact ih _
  | token t token n start found ih =>
    rw [lexemesFrom_token start found]
    refine List.forall_mem_cons.2 ⟨fun _ openEnded => ?_, ih _⟩
    have le : n ≤ t.length := (Token.length?_eq_some_iff.1 (length?_of_longest? found).1).1.1
    simp only [List.length_take, Nat.min_eq_left le]
    exact longest?_take openEnded found
  | error c t solid found ih =>
    rw [lexemesFrom_error solid found]
    exact List.forall_mem_cons.2 ⟨fun sound => absurd rfl sound, ih _⟩

theorem Lexeme.Whole.mem_language {x : Lexeme} (whole : x.Whole) (sound : x.token ≠ .error)
    (openEnded : ∀ k, x.token ≠ .keyword k) : x.text ∈ x.token.language := by
  have found := length?_of_longest? (whole sound openEnded)
  have length := (Token.length?_eq_some_iff.1 found.1).1.2
  rwa [List.take_length] at length

theorem Lexeme.Whole.wellFormed {x : Lexeme} (whole : x.Whole) (sound : x.token ≠ .error)
    (openEnded : ∀ k, x.token ≠ .keyword k) : x.WellFormed := by
  have found := whole sound openEnded
  rw [longest?_eq_openEnded_iff openEnded] at found
  have form := wellFormed_of_openEnded? found.1 x.start
  rwa [List.take_length] at form

/-! ### Reading written conditions -/

theorem Keyword.opens_bound (b : Bound) : (Keyword.bound b).Opens := ⟨boundName b, rfl⟩

theorem Keyword.opens_field (f : Field) : (Keyword.field f).Opens := ⟨f.name, rfl⟩

theorem Keyword.opens_tag : Keyword.tag.Opens := ⟨['t', 'a', 'g'], rfl⟩

theorem Keyword.opens_sort : Keyword.sort.Opens := ⟨['s', 'o', 'r', 't'], rfl⟩

theorem text_bound (b : Bound) (time : Moment) :
    (Atom.bound b time).text = (Keyword.bound b).literal ++ '"' :: (time.iso ++ ['"']) := by
  have text : (Atom.bound b time).text =
      boundName b ++ ":\"".toList ++ time.iso ++ "\"".toList := rfl
  have literal : (Keyword.bound b).literal = boundName b ++ ":".toList := rfl
  rw [text, literal]
  simp

theorem text_field (f : Field) (term : SearchTerm) :
    (Atom.field f term).text = (Keyword.field f).literal ++ term.text := rfl

theorem text_tag (labels : List Text) : (Atom.tag labels).text =
    Keyword.tag.literal ++ Text.joinWith "," (labels.map ('#' :: ·)) := rfl

theorem unescaped_iso {m : Moment} (whole : (Duration.minute : Int) ∣ m.offset) :
    Unescaped m.iso := by
  have all : ∀ c ∈ TimeExpr.Literal.isoChars, c ∉ ['"', '\\', '\n', '\r'] :=
    List.all_iff_forall_prop.1 (by decide)
  exact fun c hc => all c (TimeExpr.Literal.mem_iso whole c hc)

/-- A written bound is read with the same instant. -/
theorem readsAs_bound (clock : now.utc?.isSome) (b : Bound) {time : Moment}
    (whole : (Duration.minute : Int) ∣ time.offset) (utc : time.utc?.isSome) :
    ∃ u : Moment, u.instant = time.instant ∧
      ReadsAs now (Atom.bound b time).text (.condition (.bound b u)) := by
  obtain ⟨u, hu⟩ := Option.isSome_iff_exists.1 utc
  refine ⟨u, Moment.instant_of_utc? hu, ?_⟩
  rw [text_bound]
  refine readsAs_opens (Keyword.opens_bound b) (longest?_quoted (unescaped_iso whole))
    fun length => ?_
  simp [readItem, readSecond, readTime, TimeExpr.read_iso whole clock hu, Except.map]

/-- A written search is read as it is. -/
theorem readsAs_field (f : Field) {y : Lexeme} {term : SearchTerm} (whole : y.Whole)
    (found : readTerm y = .ok term) :
    ReadsAs now (Atom.field f term).text (.condition (.field f term)) := by
  have lexeme := mapError_eq_ok_iff.1 found
  have token := SearchTerm.token_of_ofLexeme lexeme
  have openEnded : ∀ k, y.token ≠ .keyword k := by
    rintro k hk
    simp [hk] at token
  have sound := token_of_readTerm found
  rw [text_field, SearchTerm.text_of_ofLexeme (whole.wellFormed sound openEnded) lexeme]
  refine readsAs_opens (Keyword.opens_field f) (whole sound openEnded) fun length => ?_
  have again := SearchTerm.ofLexeme_start (Keyword.field f).literal.length lexeme
  simp only [readItem, readSecond, readTerm, again]
  rfl

/-- A written tag list is read as it is. -/
theorem readsAs_tag {y : Lexeme} (whole : y.Whole) (token : y.token = .tagList) :
    ReadsAs now (Atom.tag (tagLabels y.text)).text (.condition (.tag (tagLabels y.text))) := by
  have sound : y.token ≠ .error := by simp [token]
  have openEnded : ∀ k, y.token ≠ .keyword k := by simp [token]
  have found : longest? y.text = some (.tagList, y.text.length) := token ▸ whole sound openEnded
  have list : y.text ∈ Token.tagList.language := token ▸ whole.mem_language sound openEnded
  rw [text_tag, text_tagLabels list]
  refine readsAs_opens Keyword.opens_tag found fun length => ?_
  simp [readItem, readSecond, readTags, Except.map]

theorem readsAs_of_origin {xs : List Lexeme} (whole : ∀ y ∈ xs, y.Whole) {atom : Atom}
    (origin : atom.Origin now xs) (timeless : ∀ b time, atom ≠ .bound b time) :
    ReadsAs now atom.text (.condition atom) := by
  cases origin with
  | always => exact readsAs_literal (k := .always) (by decide) fun _ => rfl
  | read s => exact readsAs_literal (k := .read s) (by simp) fun _ => rfl
  | mark s => exact readsAs_literal (k := .mark s) (by simp) fun _ => rfl
  | tagged => exact readsAs_literal (k := .tagged) (by decide) fun _ => rfl
  | lastSync => exact readsAs_literal (k := .lastSync) (by decide) fun _ => rfl
  | today => exact absurd rfl (timeless _ _)
  | bound b => exact absurd rfl (timeless _ _)
  | field f mem found => exact readsAs_field f (whole _ mem) found
  | tag mem token => exact readsAs_tag (whole _ mem) token

/-! ### Clauses -/

theorem signed_of_ne {atom : Atom} (h : ∀ b time, atom ≠ .bound b time) (negated : Bool) :
    atom.signed negated = ⟨atom, negated⟩ := by
  cases atom with
  | bound b time => exact absurd rfl (h b time)
  | _ => rfl

/-- Whether two conditions are the same, where times are the same if their instants are. -/
def Atom.Same : Atom → Atom → Prop
  | .bound b s, .bound c t => b = c ∧ s.instant = t.instant
  | a, b => a = b

theorem Atom.Same.refl (a : Atom) : a.Same a := by cases a <;> simp [Same]

/-- Whether two clauses are the same, where times are the same if their instants are. -/
def Clause.Same (c d : Clause) : Prop := c.atom.Same d.atom ∧ c.negated = d.negated

/-- A condition without a time is read with the sign that it is written with. -/
theorem readWith_signed {atom : Atom} (h : ReadsAs now atom.text (.condition atom))
    (timeless : ∀ b time, atom ≠ .bound b time) (negated : Bool) :
    readWith none (Clause.text ⟨atom, negated⟩) now = .ok ⟨none, [⟨atom, negated⟩], none⟩ := by
  have taken : (Progress.start none).take negated (.condition atom) =
      ⟨none, [⟨atom, negated⟩], none⟩ := by
    rw [Progress.take, Progress.add_of_none rfl, signed_of_ne timeless]
    rfl
  cases negated with
  | false => exact (h false (.start none) rfl).trans (congrArg _ taken)
  | true => exact (h.negated (.start none) rfl).trans (congrArg _ taken)

/-- The clause that a condition with a sign makes is read again from its written form. -/
theorem exists_readWith_text (clock : now.utc?.isSome) {xs : List Lexeme}
    (whole : ∀ y ∈ xs, y.Whole) {atom : Atom} (origin : atom.Origin now xs)
    (times : ∀ b time, atom = .bound b time →
      (Duration.minute : Int) ∣ time.offset ∧ time.utc?.isSome) (negated : Bool) :
    ∃ c : Clause, c.Same (atom.signed negated) ∧
      readWith none (atom.signed negated).text now = .ok ⟨none, [c], none⟩ := by
  by_cases timed : ∃ b time, atom = .bound b time
  · obtain ⟨b, time, rfl⟩ := timed
    obtain ⟨minutes, utc⟩ := times b time rfl
    obtain ⟨u, same, reads⟩ :=
      readsAs_bound clock (if negated then b.opposite else b) minutes utc
    exact ⟨⟨.bound _ u, false⟩, ⟨⟨rfl, same⟩, rfl⟩, reads false (.start none) rfl⟩
  · have timeless : ∀ b time, atom ≠ .bound b time := fun b time h => timed ⟨b, time, h⟩
    rw [signed_of_ne timeless]
    exact ⟨⟨atom, negated⟩, ⟨.refl atom, rfl⟩,
      readWith_signed (readsAs_of_origin whole origin timeless) timeless negated⟩

/-- The clauses of a query come from its tokens. -/
theorem origins_of_readFrom {length : Nat} {negated : Bool} {p q : Progress} {xs : List Lexeme}
    (h : readFrom now length negated p xs = .ok q) {tokens : List Lexeme} (sub : xs ⊆ tokens)
    (unfiltered : p.filter = none)
    (before : ∀ c ∈ p.clauses, ∃ (atom : Atom) (sign : Bool), c = atom.signed sign ∧
      atom.Origin now tokens) :
    ∀ c ∈ q.clauses, ∃ (atom : Atom) (sign : Bool), c = atom.signed sign ∧
      atom.Origin now tokens := by
  induction h using reading_induction with
  | done => exact before
  | negate _ _ _ ih => exact ih (List.cons_subset.1 sub).2 unfiltered before
  | @item negated p x taken ys item _ takes _ _ ih =>
    obtain ⟨mem, sub⟩ := List.cons_subset.1 sub
    obtain ⟨first, rest⟩ := List.append_subset.1 sub
    cases item with
    | sort o => exact ih rest unfiltered before
    | condition atom =>
      have origin : atom.Origin now tokens :=
        (origin_of_readItem (takes.reads 0 [])).mono (by
          rw [List.append_nil]
          exact List.cons_subset.2 ⟨mem, first⟩)
      have pushed := Progress.add_of_none unfiltered negated atom
      rw [Progress.take, pushed] at ih
      refine ih rest unfiltered (List.forall_mem_append.2 ⟨before, ?_⟩)
      exact List.forall_mem_singleton.2 ⟨atom, negated, rfl, origin⟩

/-! ### Sort orders -/

/-- The written form of a sort order in a query. -/
def sortText (o : SortOrder) : Text := "sort:\"" ++ o.text ++ "\""

theorem unescaped_sortOrder (o : SortOrder) : Unescaped o.text := by
  have key (k : SortKey) : ∀ c ∈ k.text, c ∉ ['"', '\\', '\n', '\r'] := by
    obtain ⟨f, d⟩ := k
    cases f <;> cases d <;> exact List.all_iff_forall_prop.1 (by decide)
  intro c hc
  rcases Text.mem_joinWith hc with sep | ⟨t, ht, mem⟩
  · obtain rfl : c = ' ' := by simpa using sep
    decide
  · obtain ⟨k, -, rfl⟩ := List.mem_map.1 ht
    exact key k c mem

theorem readWith_sortText (o : SortOrder) :
    readWith none (sortText o) now = .ok ⟨none, [], some o⟩ := by
  have text : sortText o = Keyword.sort.literal ++ '"' :: (o.text ++ ['"']) := by
    have text : sortText o = "sort:\"".toList ++ o.text ++ "\"".toList := rfl
    have literal : Keyword.sort.literal = "sort:".toList := rfl
    rw [text, literal]
    simp
  have reads : ReadsAs now (sortText o) (.sort o) := by
    rw [text]
    refine readsAs_opens Keyword.opens_sort (longest?_quoted (unescaped_sortOrder o))
      fun length => ?_
    simp [readItem, readSecond, readSort, SortOrder.read_text, Except.map]
  exact reads false (.start none) rfl

/-! ### Queries -/

/-- A query in written form: its clauses and its sort order with blanks between them. -/
def written (q : Query) : Text :=
  Text.joinWith " " (q.clauses.map Clause.text ++ q.sort.toList.map sortText)

theorem readWith_blank {t u : Text} {cs ds : List Clause} {sort : Option SortOrder}
    (first : readWith none t now = .ok ⟨none, cs, none⟩)
    (second : readWith none u now = .ok ⟨none, ds, sort⟩) :
    readWith none (t ++ ' ' :: u) now = .ok ⟨none, cs ++ ds, sort⟩ := by
  rw [readWith_append_eq first]
  have rest : readFrom now u.length false ⟨none, [], none⟩ (tokenize u) = .ok ⟨none, ds, sort⟩ :=
    second
  rw [rest]
  rfl

theorem readWith_nil : readWith none [] now = .ok (.start none) := by
  rw [readWith, tokenize, Cursor.start, lexemesFrom_nil]
  exact readFrom_nil ..

/-- Clauses that are read one by one are read together, with a sort order behind them. -/
theorem readWith_joinWith {cs : List Clause} (sort : Option SortOrder)
    (each : ∀ c ∈ cs, ∃ d : Clause, d.Same c ∧
      readWith none c.text now = .ok ⟨none, [d], none⟩) :
    ∃ ds, List.Forall₂ Clause.Same ds cs ∧
      readWith none (Text.joinWith " " (cs.map Clause.text ++ sort.toList.map sortText)) now =
        .ok ⟨none, ds, sort⟩ := by
  induction cs with
  | nil =>
    refine ⟨[], .nil, ?_⟩
    cases sort with
    | none => exact readWith_nil
    | some o => simpa [Text.joinWith] using readWith_sortText o
  | cons c cs ih =>
    obtain ⟨⟨d, same, first⟩, others⟩ := List.forall_mem_cons.1 each
    obtain ⟨ds, all, rest⟩ := ih others
    refine ⟨d :: ds, .cons same all, ?_⟩
    rw [List.map_cons, List.cons_append]
    cases pieces : cs.map Clause.text ++ sort.toList.map sortText with
    | nil =>
      obtain ⟨noClause, noSort⟩ := List.append_eq_nil_iff.1 pieces
      obtain rfl := List.map_eq_nil_iff.1 noClause
      obtain rfl : sort = none := by simpa using noSort
      obtain rfl := List.forall₂_nil_right_iff.1 all
      simpa [Text.joinWith] using first
    | cons u us =>
      rw [pieces] at rest
      rw [Text.joinWith_cons_cons, List.append_assoc]
      exact readWith_blank first rest

/-- The written form of a query is read again, with the same clauses and the same sort order. The
clock shows an offset of whole minutes, and the calendar of UTC reaches its instant and the one a
day before. -/
theorem read_written {now : Moment} (minutes : (Duration.minute : Int) ∣ now.offset)
    (clock : now.utc?.isSome)
    (yesterday : (LocalTime.ofInt? (now.instant - (Duration.day : Int))).isSome)
    {t : Text} {q : Query} (h : Query.read t now = .ok q) :
    ∃ p : Query, Query.read (written q) now = .ok p ∧
      List.Forall₂ Clause.Same p.clauses q.clauses ∧ p.sort = q.sort := by
  obtain ⟨progress, found, rfl⟩ := map_eq_ok_iff.1 h
  have whole : ∀ y ∈ tokenize t, y.Whole := whole_of_mem 0 t
  have origins := origins_of_readFrom found (List.Subset.refl _) rfl (List.forall_mem_nil _)
  have each : ∀ c ∈ progress.clauses, ∃ d : Clause, d.Same c ∧
      readWith none c.text now = .ok ⟨none, [d], none⟩ := by
    intro c hc
    obtain ⟨atom, negated, rfl, origin⟩ := origins c hc
    refine exists_readWith_text clock whole origin ?_ negated
    rintro b time rfl
    cases origin with
    | today day =>
      have before : time.instant = now.instant - (Duration.day : Int) :=
        Moment.instant_of_after? (after?_of_dayBefore day)
      rw [offset_of_dayBefore day, Moment.utc?, Option.isSome_map, before]
      exact ⟨minutes, yesterday⟩
    | bound b mem read =>
      have utc := offset_of_readTime read
      rw [utc]
      exact ⟨Int.dvd_zero _, Moment.isSome_utc?_of_offset utc⟩
  obtain ⟨ds, same, reads⟩ := readWith_joinWith progress.sort each
  exact ⟨⟨_, ds, progress.sort⟩, map_eq_ok_iff.2 ⟨_, reads, rfl⟩, same, rfl⟩

/-- A clock in Central Europe: the day before has its offset, a time given by its date has UTC. -/
theorem read_written_today :
    ∃ q : Query,
      Query.read "today ~older:\"2024-02-01\" x ~tag:#a,#b sort:\"date\""
        ⟨⟨63844934400000000, by decide +kernel⟩, 3600000000, by decide⟩ = .ok q ∧
      written q = ("newer:\"2024-03-01T00:00:00+01:00\" newer:\"2024-02-01T00:00:00+00:00\" " ++
        "all:x ~tag:#a,#b sort:\"<date\"").toList ∧
      ∃ p : Query,
        Query.read (written q) ⟨⟨63844934400000000, by decide +kernel⟩, 3600000000, by decide⟩ =
          .ok p ∧
        List.Forall₂ Clause.Same p.clauses q.clauses ∧ p.sort = q.sort := by
  have text : (Query.read "today ~older:\"2024-02-01\" x ~tag:#a,#b sort:\"date\""
        ⟨⟨63844934400000000, by decide +kernel⟩, 3600000000, by decide⟩).map written =
      .ok ("newer:\"2024-03-01T00:00:00+01:00\" newer:\"2024-02-01T00:00:00+00:00\" " ++
        "all:x ~tag:#a,#b sort:\"<date\"").toList := by
    decide +kernel
  obtain ⟨q, found, text⟩ := map_eq_ok_iff.1 text
  exact ⟨q, found, text, read_written (by decide) (by decide +kernel) (by decide +kernel) found⟩

end FeedReader.Query
