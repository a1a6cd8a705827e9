import FeedReader.Proofs.Color.RoundTrip
import FeedReader.Proofs.Command.Reading
import FeedReader.Proofs.Query.Tokens
import FeedReader.Proofs.SortOrder.Lines

/-!
# Reading a command from its command line

The command line of a command that has been read gives the same command when it is read again.

* `Url.ReadsBack`: addresses that are written as a word from which they are read again;
* `Command.Canonical`: commands whose arguments are read again from their written forms;
* `canonical_of_read`: what can be read is such a command;
* `Canonical.read_text`: such a command is read from its command line;
* `read_text_of_read`.
-/

namespace FeedReader

open Text (IsWord IsTrimmed IsLine)

/-- Whether an address is written as a word from which it is read again. -/
def Url.ReadsBack (u : Url) : Prop := IsWord u.text ∧ Url.read u.text = .ok u

/-- Whether a scope is written as a line from which it is read again. -/
def ActionScope.Canonical (now : Moment) (s : ActionScope) : Prop :=
  IsLine s.text ∧ Command.readScope now s.text = .ok s

/-- Whether a search term is written as a line of which it is the only token. -/
def Query.SearchTerm.Canonical (term : Query.SearchTerm) : Prop :=
  IsLine term.text ∧ ∃ x after,
    (Query.Cursor.start term.text).next = (some x, after) ∧ after.rest = [] ∧
      Query.SearchTerm.ofLexeme x = .ok term

theorem Panel.isWord_keyword (p : Panel) : IsWord p.keyword := by cases p <;> decide

theorem ActionTarget.isWord_keyword (a : ActionTarget) : IsWord a.keyword := by cases a <;> decide

theorem PastePosition.isWord_keyword (p : PastePosition) : IsWord p.keyword := by
  cases p <;> decide

theorem ArticleScope.isWord_keyword (s : ArticleScope) : IsWord s.keyword := by cases s <;> decide

namespace Command

/-- The addresses in a command. -/
def addresses : Command → List Url
  | addFeed url _ => [url]
  | changeFeedUrl url => [url]
  | within _ c => c.addresses
  | confirm c => c.addresses
  | _ => []

/-- Whether the arguments of a command are read again from their written forms. -/
def Canonical (now : Moment) : Command → Prop
  | within _ c => c.Canonical now
  | confirm c => c.Canonical now
  | setRead _ scope => scope.Canonical now
  | onScope _ _ scope => scope.Canonical now
  | onTag _ _ tag scope => IsWord tag ∧ scope.Canonical now
  | addFeed url name => url.ReadsBack ∧ ∀ t ∈ name, IsLine t
  | changeFeedUrl url => url.ReadsBack
  | named _ _ t => IsLine t
  | addTag tag _ => IsWord tag
  | onQuery _ _ q => IsLine q.text ∧ readQuery now q.text = .ok q
  | search term => ∃ s, term = some s ∧ s.Canonical
  | sort o => o.keys ≠ []
  | share target => IsWord target
  | onFile _ _ path => IsLine path
  | logout word => IsWord word
  | commandLine content => ∀ t ∈ content, IsLine t
  | _ => True

/-! ### What can be read is canonical -/

variable {mode : Mode} {now : Moment} {t rest : Text} {c : Command}

theorem canonical_of_readScope {s : ActionScope} (ht : IsTrimmed t) (h : readScope now t = .ok s) :
    s.Canonical now := by
  by_cases empty : t = []
  · rw [readScope, if_pos empty] at h
    obtain rfl := Except.ok.inj h
    exact ⟨Text.IsWord.isLine (by decide), rfl⟩
  · have text : s.text = t := by
      rw [readScope, if_neg empty, mapError_eq_ok_iff, ActionScope.read] at h
      split at h
      · next sign =>
        obtain rfl := Except.ok.inj h
        exact sign.symm
      · split at h
        · next sign =>
          obtain rfl := Except.ok.inj h
          exact sign.symm
        · obtain ⟨q, hq, rfl⟩ := map_eq_ok_iff.1 h
          exact text_of_readQuery (readQuery_eq_ok.2 hq)
    rw [ActionScope.Canonical, text]
    exact ⟨⟨ht, empty⟩, h⟩

theorem canonical_of_readSetRead (ht : IsTrimmed rest) (h : readSetRead now rest = .ok c) :
    c.Canonical now := by
  unfold readSetRead at h
  split at h
  · next target tail found =>
    obtain ⟨s, hs, rfl⟩ := map_eq_ok_iff.1 h
    obtain ⟨⟨word, tail'⟩, split, same⟩ := Option.map_eq_some_iff.1 found
    simp only [Prod.mk.injEq] at same
    exact canonical_of_readScope (same.2 ▸ Text.isTrimmed_of_splitWord split) hs
  · obtain ⟨s, hs, rfl⟩ := map_eq_ok_iff.1 h
    exact canonical_of_readScope ht hs

theorem canonical_of_readAddTag (h : readAddTag mode rest = .ok c) : c.Canonical now := by
  obtain ⟨⟨tag, tail⟩, found, h⟩ := bind_eq_ok_iff.1 h
  have word : IsWord tag := Text.isWord_of_splitWord (readWord_eq_ok.1 found)
  simp only at h
  split at h
  · obtain rfl := Except.ok.inj h
    exact word
  · obtain ⟨color, -, h⟩ := bind_eq_ok_iff.1 h
    obtain rfl := eq_of_ending h
    exact word

theorem canonical_of_readShow (h : readShow mode rest = .ok c) : c.Canonical now := by
  unfold readShow at h
  split at h
  · exact absurd h fail_ne_ok
  · split at h
    · obtain ⟨s, -, rfl⟩ := map_eq_ok_iff.1 h
      trivial
    · obtain ⟨s, -, rfl⟩ := map_eq_ok_iff.1 h
      trivial

theorem canonical_of_readSearch (h : readSearch mode rest = .ok c) : c.Canonical now := by
  unfold readSearch at h
  split at h
  · exact absurd h fail_ne_ok
  · next x after found =>
    split at h
    · exact absurd h fail_ne_ok
    · next term hterm =>
      obtain rfl := eq_of_ending h
      exact ⟨term, rfl, Query.SearchTerm.next_text found hterm⟩

theorem canonical_of_readSort (ht : IsTrimmed rest) (h : readSort rest = .ok c) :
    c.Canonical now := by
  unfold readSort at h
  split at h
  · exact absurd h fail_ne_ok
  · next some =>
    split at h
    · exact absurd h fail_ne_ok
    · next o found =>
      obtain rfl := Except.ok.inj h
      exact SortOrder.keys_of_read found ⟨ht, some⟩

theorem isLine_of_nonempty? {t s : Text} (ht : IsTrimmed t) (h : s ∈ Text.nonempty? t) :
    IsLine s := by
  unfold Text.nonempty? at h
  split at h
  · simp at h
  · next some =>
    obtain rfl := Option.some.inj (Option.mem_def.1 h)
    exact ⟨ht, some⟩

/-- Arguments that can be read are canonical if the commands in them are. -/
theorem canonical_of_readArguments {kind : Kind} {s : Shape} (shape : kind.shape = s)
    (ht : IsTrimmed rest) (h : readArguments mode now kind rest s shape = .ok c)
    (back : ∀ u ∈ c.addresses, u.ReadsBack)
    (inner : ∀ tail d, tail.length ≤ rest.length → read mode now tail = .ok d →
      (∀ u ∈ d.addresses, u.ReadsBack) → d.Canonical now) :
    c.Canonical now := by
  -- one case for each shape of arguments; only two of them have a command in them
  cases s <;> rw [readArguments] at h
  case nothing =>
    obtain rfl := eq_of_ending h
    trivial
  case panel =>
    obtain ⟨⟨panel, tail⟩, -, h⟩ := bind_eq_ok_iff.1 h
    obtain rfl := eq_of_ending h
    trivial
  case panelCommand =>
    split at h
    · simp at h
    · next panel tail found =>
      split at h
      · exact absurd h fail_ne_ok
      · obtain ⟨d, hd, rfl⟩ := map_eq_ok_iff.1 h
        exact inner tail d (length_of_readKeyword found).le hd back
  case command =>
    split at h
    · exact absurd h fail_ne_ok
    · obtain ⟨d, hd, rfl⟩ := map_eq_ok_iff.1 h
      exact inner rest d le_rfl hd back
  case targetScope => exact canonical_of_readSetRead ht h
  case scope =>
    obtain ⟨scope, hs, rfl⟩ := map_eq_ok_iff.1 h
    exact canonical_of_readScope ht hs
  case tagScope =>
    obtain ⟨⟨tag, tail⟩, found, h⟩ := bind_eq_ok_iff.1 h
    obtain ⟨scope, hs, rfl⟩ := map_eq_ok_iff.1 h
    have split := readWord_eq_ok.1 found
    exact ⟨Text.isWord_of_splitWord split,
      canonical_of_readScope (Text.isTrimmed_of_splitWord split) hs⟩
  case urlName =>
    obtain ⟨⟨word, tail⟩, found, h⟩ := bind_eq_ok_iff.1 h
    obtain ⟨url, -, rfl⟩ := map_eq_ok_iff.1 h
    have trimmed := Text.isTrimmed_of_splitWord (readWord_eq_ok.1 found)
    exact ⟨back url (by simp [addresses]), fun s hs => isLine_of_nonempty? trimmed hs⟩
  case url =>
    obtain ⟨⟨word, tail⟩, -, h⟩ := bind_eq_ok_iff.1 h
    obtain ⟨url, -, h⟩ := bind_eq_ok_iff.1 h
    obtain rfl := eq_of_ending h
    exact back url (by simp [addresses])
  case position =>
    obtain ⟨⟨position, tail⟩, -, h⟩ := bind_eq_ok_iff.1 h
    obtain rfl := eq_of_ending h
    trivial
  case text =>
    split at h
    · exact absurd h fail_ne_ok
    · next some =>
      obtain rfl := Except.ok.inj h
      exact ⟨ht, some⟩
  case color =>
    obtain ⟨⟨word, tail⟩, -, h⟩ := bind_eq_ok_iff.1 h
    obtain ⟨color, -, h⟩ := bind_eq_ok_iff.1 h
    obtain rfl := eq_of_ending h
    trivial
  case tagColor => exact canonical_of_readAddTag h
  case articleScope =>
    obtain ⟨scope, -, rfl⟩ := map_eq_ok_iff.1 h
    trivial
  case targetArticleScope => exact canonical_of_readShow h
  case query =>
    split at h
    · exact absurd h fail_ne_ok
    · next some =>
      obtain ⟨q, hq, rfl⟩ := map_eq_ok_iff.1 h
      have text := text_of_readQuery hq
      exact ⟨by rw [text]; exact ⟨ht, some⟩, by rw [text]; exact hq⟩
  case searchTerm => exact canonical_of_readSearch h
  case sortOrder => exact canonical_of_readSort ht h
  case shareTarget =>
    obtain ⟨⟨word, tail⟩, found, h⟩ := bind_eq_ok_iff.1 h
    obtain rfl := eq_of_ending h
    exact Text.isWord_of_splitWord (readWord_eq_ok.1 found)
  case path =>
    split at h
    · exact absurd h fail_ne_ok
    · next some =>
      obtain rfl := Except.ok.inj h
      exact ⟨ht, some⟩
  case confirmation =>
    obtain ⟨⟨word, tail⟩, found, h⟩ := bind_eq_ok_iff.1 h
    obtain rfl := eq_of_ending h
    exact Text.isWord_of_splitWord (readWord_eq_ok.1 found)
  case optionalText =>
    obtain rfl := Except.ok.inj h
    exact fun s hs => isLine_of_nonempty? ht hs

/-- What can be read is canonical if its addresses are read again. The induction is on the length of
the line, since a command stands in the rest of the line of the command around it. -/
theorem canonical_of_read (h : read mode now t = .ok c) (back : ∀ u ∈ c.addresses, u.ReadsBack) :
    c.Canonical now := by
  induction hn : t.length using Nat.strong_induction_on generalizing t c with
  | _ n ih =>
    obtain ⟨kind, rest, found, h⟩ := exists_of_read h
    have shorter := Text.length_of_splitWord found
    refine canonical_of_readArguments rfl (Text.isTrimmed_of_splitWord found) h back ?_
    intro tail d bound hd back
    exact ih tail.length (by omega) hd back rfl

/-! ### Reading again -/

theorem Kind.line_nil (k : Kind) : k.line [] = k.keyword := by simp [Kind.line, Text.joinWith]

theorem Kind.line_one (k : Kind) (a : Text) : k.line [a] = k.keyword ++ ' ' :: a := by
  simp [Kind.line, Text.joinWith, List.intercalate]

theorem Kind.line_two (k : Kind) (a b : Text) :
    k.line [a, b] = k.keyword ++ ' ' :: (a ++ ' ' :: b) := by
  simp [Kind.line, Text.joinWith, List.intercalate]

/-- A command is read again if its arguments are, and then its command line is a line. -/
theorem read_line_one {kind : Kind} {s : Shape} {a : Text} (shape : kind.shape = s) (ha : IsLine a)
    (h : readArguments .eager now kind a s shape = .ok c) :
    IsLine (kind.line [a]) ∧ read .eager now (kind.line [a]) = .ok c := by
  rw [kind.line_one]
  exact ⟨kind.isWord_keyword.isLine_append ha, by rw [read_append shape ha.trimmed, h]⟩

theorem read_line_two {kind : Kind} {s : Shape} {a b : Text} (shape : kind.shape = s)
    (ha : IsWord a) (hb : IsLine b)
    (h : readArguments .eager now kind (a ++ ' ' :: b) s shape = .ok c) :
    IsLine (kind.line [a, b]) ∧ read .eager now (kind.line [a, b]) = .ok c := by
  have line := ha.isLine_append hb
  rw [kind.line_two]
  exact ⟨kind.isWord_keyword.isLine_append line, by rw [read_append shape line.trimmed, h]⟩

theorem readPanel_keyword (p : Panel) {t : Text} (ht : IsTrimmed t) :
    readPanel (p.keyword ++ ' ' :: t) = .ok (p, t) :=
  readPanel_of_splitWord (Text.splitWord_append p.isWord_keyword ht)

theorem readArticleScope_keyword (s : ArticleScope) :
    readArticleScope mode s.keyword = .ok s :=
  bind_eq_ok_iff.2 ⟨_, readKeyword_word s.isWord_keyword s.ofKeyword?_keyword, ending_nil _ _⟩

theorem nonempty?_of_isLine (ht : IsLine t) : Text.nonempty? t = some t := by
  rw [Text.nonempty?, if_neg ht.ne_nil]

theorem readSetRead_text (target : ActionTarget) {scope : ActionScope} (h : scope.Canonical now) :
    readSetRead now (target.keyword ++ ' ' :: scope.text) = .ok (.setRead target scope) := by
  rw [readSetRead, Text.splitWord_append target.isWord_keyword h.1.trimmed]
  simp only [Option.map_some, ActionTarget.ofKeyword?_keyword]
  exact map_eq_ok_iff.2 ⟨scope, h.2, rfl⟩

theorem readAddTag_tag {tag : Text} (word : IsWord tag) :
    readAddTag mode tag = .ok (.addTag tag none) :=
  bind_eq_ok_iff.2 ⟨_, readWord_word word, rfl⟩

theorem readAddTag_color {tag : Text} (word : IsWord tag) (color : Color) :
    readAddTag mode (tag ++ ' ' :: color.text) = .ok (.addTag tag (some color)) := by
  have color_word := color.isWord_text
  refine bind_eq_ok_iff.2 ⟨_, readWord_append word color_word.isLine.trimmed, ?_⟩
  simp only [Text.splitWord_word color_word]
  exact bind_eq_ok_iff.2 ⟨color, readColor_eq_ok.2 color.read_text, ending_nil _ _⟩

theorem readShow_text (target : ActionTarget) (scope : ArticleScope) :
    readShow mode (target.keyword ++ ' ' :: scope.keyword) = .ok (.showArticles target scope) := by
  have trimmed := scope.isWord_keyword.isLine.trimmed
  rw [readShow, Text.splitWord_append target.isWord_keyword trimmed]
  simp only [ActionTarget.ofKeyword?_keyword]
  exact map_eq_ok_iff.2 ⟨scope, readArticleScope_keyword scope, rfl⟩

theorem readSearch_text {term : Query.SearchTerm} (h : term.Canonical) :
    readSearch mode term.text = .ok (.search (some term)) := by
  obtain ⟨line, x, after, found, none_left, again⟩ := h
  rw [readSearch, found]
  simp only [again, none_left]
  exact ending_nil _ _

theorem readSort_text {o : SortOrder} (h : o.keys ≠ []) : readSort o.text = .ok (.sort o) := by
  rw [readSort, if_neg (SortOrder.isLine_text h).ne_nil, SortOrder.read_text]

/-- A canonical command is written as a line from which it is read. The induction is on the
command, since the line of a command stands in the line of the command around it. -/
theorem Canonical.read_text (h : c.Canonical now) :
    IsLine c.text ∧ read .eager now c.text = .ok c := by
  induction c with
  | plain kind shape =>
    rw [text, kind.line_nil, read_word shape, readArguments, ending_nil]
    exact ⟨kind.isWord_keyword.isLine, rfl⟩
  | focus panel =>
    have word := panel.isWord_keyword
    refine read_line_one (s := .panel) (by decide) word.isLine ?_
    rw [readArguments]
    exact bind_eq_ok_iff.2 ⟨_, readKeyword_word word panel.ofKeyword?_keyword, ending_nil _ _⟩
  | within panel d ih =>
    obtain ⟨line, again⟩ := ih h
    refine read_line_two (s := .panelCommand) (by decide) panel.isWord_keyword line ?_
    rw [readArguments_within _ (readPanel_keyword panel line.trimmed), if_neg line.ne_nil, again]
    rfl
  | confirm d ih =>
    obtain ⟨line, again⟩ := ih h
    refine read_line_one (s := .command) (by decide) line ?_
    rw [readArguments, if_neg line.ne_nil, again]
    rfl
  | setRead target scope =>
    refine read_line_two (s := .targetScope) (by decide) target.isWord_keyword h.1 ?_
    rw [readArguments]
    exact readSetRead_text target h
  | onScope kind shape scope =>
    refine read_line_one shape h.1 ?_
    rw [readArguments]
    exact map_eq_ok_iff.2 ⟨scope, h.2, rfl⟩
  | onTag kind shape tag scope =>
    obtain ⟨word, line, again⟩ := h
    refine read_line_two shape word line ?_
    rw [readArguments]
    exact bind_eq_ok_iff.2 ⟨_, readWord_append word line.trimmed,
      map_eq_ok_iff.2 ⟨scope, again, rfl⟩⟩
  | addFeed url name =>
    obtain ⟨⟨word, again⟩, name_line⟩ := h
    cases name with
    | none =>
      refine read_line_one (s := .urlName) (by decide) word.isLine ?_
      rw [readArguments]
      exact bind_eq_ok_iff.2 ⟨_, readWord_word word,
        map_eq_ok_iff.2 ⟨url, readUrl_eq_ok.2 again, rfl⟩⟩
    | some name =>
      have line := name_line name rfl
      refine read_line_two (s := .urlName) (by decide) word line ?_
      rw [readArguments]
      exact bind_eq_ok_iff.2 ⟨_, readWord_append word line.trimmed,
        map_eq_ok_iff.2 ⟨url, readUrl_eq_ok.2 again, by rw [nonempty?_of_isLine line]⟩⟩
  | changeFeedUrl url =>
    obtain ⟨word, again⟩ := h
    refine read_line_one (s := .url) (by decide) word.isLine ?_
    rw [readArguments]
    exact bind_eq_ok_iff.2 ⟨_, readWord_word word,
      bind_eq_ok_iff.2 ⟨url, readUrl_eq_ok.2 again, ending_nil _ _⟩⟩
  | paste position =>
    have word := position.isWord_keyword
    refine read_line_one (s := .position) (by decide) word.isLine ?_
    rw [readArguments]
    exact bind_eq_ok_iff.2 ⟨_, readKeyword_word word position.ofKeyword?_keyword, ending_nil _ _⟩
  | named kind shape t =>
    refine read_line_one shape h ?_
    rw [readArguments, if_neg (IsLine.ne_nil h)]
  | changeTagColor color =>
    have word := color.isWord_text
    refine read_line_one (s := .color) (by decide) word.isLine ?_
    rw [readArguments]
    exact bind_eq_ok_iff.2 ⟨_, readWord_word word,
      bind_eq_ok_iff.2 ⟨color, readColor_eq_ok.2 color.read_text, ending_nil _ _⟩⟩
  | addTag tag color =>
    have word : IsWord tag := h
    cases color with
    | none =>
      refine read_line_one (s := .tagColor) (by decide) word.isLine ?_
      rw [readArguments]
      exact readAddTag_tag word
    | some color =>
      refine read_line_two (s := .tagColor) (by decide) word color.isWord_text.isLine ?_
      rw [readArguments]
      exact readAddTag_color word color
  | expandCategories scope =>
    refine read_line_one (s := .articleScope) (by decide) scope.isWord_keyword.isLine ?_
    rw [readArguments]
    exact map_eq_ok_iff.2 ⟨scope, readArticleScope_keyword scope, rfl⟩
  | showArticles target scope =>
    have line := scope.isWord_keyword.isLine
    refine read_line_two (s := .targetArticleScope) (by decide) target.isWord_keyword line ?_
    rw [readArguments]
    exact readShow_text target scope
  | onQuery kind shape q =>
    obtain ⟨line, again⟩ := h
    refine read_line_one shape line ?_
    rw [readArguments, if_neg line.ne_nil]
    exact map_eq_ok_iff.2 ⟨q, again, rfl⟩
  | search term =>
    obtain ⟨term, rfl, h⟩ := h
    refine read_line_one (s := .searchTerm) (by decide) h.1 ?_
    rw [readArguments]
    exact readSearch_text h
  | sort o =>
    refine read_line_one (s := .sortOrder) (by decide) (SortOrder.isLine_text h) ?_
    rw [readArguments]
    exact readSort_text h
  | share target =>
    have word : IsWord target := h
    refine read_line_one (s := .shareTarget) (by decide) word.isLine ?_
    rw [readArguments]
    exact bind_eq_ok_iff.2 ⟨_, readWord_word word, ending_nil _ _⟩
  | onFile kind shape path =>
    refine read_line_one shape h ?_
    rw [readArguments, if_neg (IsLine.ne_nil h)]
  | logout word =>
    have hw : IsWord word := h
    refine read_line_one (s := .confirmation) (by decide) hw.isLine ?_
    rw [readArguments]
    exact bind_eq_ok_iff.2 ⟨_, readWord_word hw, ending_nil _ _⟩
  | commandLine content =>
    cases content with
    | none =>
      rw [text, show Kind.line .commandLine [none] = Kind.keyword .commandLine from rfl,
        read_word (s := .optionalText) (by decide), readArguments]
      exact ⟨(Kind.isWord_keyword _).isLine, rfl⟩
    | some t =>
      have line : IsLine t := h t rfl
      refine read_line_one (s := .optionalText) (by decide) line ?_
      rw [readArguments, nonempty?_of_isLine line]

/-- A command that has been read is read again from its command line, if its addresses are read
again from theirs. -/
theorem read_text_of_read (h : read mode now t = .ok c)
    (back : ∀ u ∈ c.addresses, u.ReadsBack) : read .eager now c.text = .ok c :=
  (canonical_of_read h back).read_text.2

/-- A command in a command in a panel, from a line with more blanks than its command line has. -/
theorem read_text_of_read_within :
    read .lenient (.ofUtc ⟨0, by decide⟩) "in feeds  confirm feedadd HTTPS://a.org/b  My feed " =
        .ok (within .feeds (confirm (addFeed ⟨"https://a.org/b"⟩ (some "My feed".toList)))) ∧
      read .eager (.ofUtc ⟨0, by decide⟩)
          (within .feeds (confirm (addFeed ⟨"https://a.org/b"⟩ (some "My feed".toList)))).text =
        .ok (within .feeds (confirm (addFeed ⟨"https://a.org/b"⟩ (some "My feed".toList)))) := by
  have found : read .lenient (.ofUtc ⟨0, by decide⟩)
        "in feeds  confirm feedadd HTTPS://a.org/b  My feed " =
      .ok (within .feeds (confirm (addFeed ⟨"https://a.org/b"⟩ (some "My feed".toList)))) := by
    decide +kernel
  refine ⟨found, read_text_of_read found ?_⟩
  simp only [addresses, List.mem_singleton, forall_eq]
  exact ⟨by decide, by decide +kernel⟩

end Command

end FeedReader
