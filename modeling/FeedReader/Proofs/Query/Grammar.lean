import FeedReader.Proofs.Query.Pushdown
import FeedReader.Proofs.Query.Written

/-!
# The grammar of queries

A query is a row of phrases, each a condition or a sort order, perhaps with a sign before it. The
grammar says which tokens make up a phrase and what they stand for, and reading accepts the rows of
phrases with at most one sort order, and no others.

* `IsTerm`, `IsTagList`, `IsItem`: the tokens of search terms, tag lists and items, with
  `readTerm_eq_ok_iff`, `readTags_eq_ok_iff`, `isItem_of_readItem` and `readItem_of_isItem`;
* `Phrase`: an item with its tokens and its sign, and what it leaves, a clause or a sort order;
* `Gives`: what a row of phrases makes of what has been read before it, phrase by phrase;
* `exists_phrases_of_readFrom`, `readFrom_of_gives`: what has been read is a row of phrases, and a
  row of phrases is read;
* `read_iff_phrases`.
-/

namespace FeedReader.Query

variable {now yesterday : Moment} {length : Nat}

/-! ### Second tokens -/

/-- What is searched, and the token that it is written as. -/
inductive IsTerm (x : Lexeme) : SearchTerm → Prop
  | verbatim (token : x.token = .quoted) : IsTerm x (.verbatim (Text.inner x.text))
  | word (token : x.token = .word) : IsTerm x (.word x.text)
  | regex {r : Regex} (token : x.token = .regex)
    (compiles : Regex.ofText? (Text.inner x.text) = some r) : IsTerm x (.regex r)

/-- Labels, and the token that they are written as: each with a mark before it, and with commas
between them. -/
structure IsTagList (x : Lexeme) (labels : List Text) : Prop where
  token : x.token = .tagList
  text : Text.joinWith "," (labels.map ('#' :: ·)) = x.text
  names : ∀ label ∈ labels, ',' ∉ label

theorem readTerm_eq_ok_iff {x : Lexeme} {term : SearchTerm} :
    readTerm x = .ok term ↔ IsTerm x term := by
  rw [readTerm, mapError_eq_ok_iff]
  constructor
  · intro h
    unfold SearchTerm.ofLexeme at h
    split at h
    case h_1 token =>
      split at h
      · next r compiles =>
        cases h
        exact .regex token compiles
      · simp at h
    case h_2 token =>
      cases h
      exact .verbatim token
    case h_3 token =>
      cases h
      exact .word token
    case h_4 => simp at h
  · rintro (token | token | ⟨token, compiles⟩)
    · simp [SearchTerm.ofLexeme, token]
    · simp [SearchTerm.ofLexeme, token]
    · simp [SearchTerm.ofLexeme, token, compiles]

/-- The labels of a tag list are those that make it up. -/
theorem tagLabels_eq_iff {t : Text} (list : t ∈ Token.tagList.language) {labels : List Text} :
    tagLabels t = labels ↔
      Text.joinWith "," (labels.map ('#' :: ·)) = t ∧ ∀ label ∈ labels, ',' ∉ label := by
  constructor
  · rintro rfl
    refine ⟨text_tagLabels list, fun label mem comma => ?_⟩
    obtain ⟨piece, hp, rfl⟩ := List.mem_map.1 mem
    exact Text.not_mem_splitAtEach ',' t piece hp (List.mem_of_mem_drop comma)
  · rintro ⟨rfl, names⟩
    have ne_nil : labels.map ('#' :: ·) ≠ [] := by
      intro empty
      rw [empty] at list
      obtain ⟨c, u, nil, -⟩ := mem_tagList.1 list
      simp [Text.joinWith] at nil
    have free : ∀ piece ∈ labels.map ('#' :: ·), ',' ∉ piece := by
      intro piece mem
      obtain ⟨label, hl, rfl⟩ := List.mem_map.1 mem
      exact List.not_mem_cons_of_ne_of_not_mem (by decide) (names label hl)
    have pieces : Text.splitAtEach ',' (Text.joinWith "," (labels.map ('#' :: ·))) =
        labels.map ('#' :: ·) := Text.splitAtEach_joinWith ne_nil free
    rw [tagLabels, pieces, List.map_map]
    exact List.map_id labels

theorem tagLabels_eq_iff_of_token {x : Lexeme} (whole : x.Whole) (token : x.token = .tagList)
    {labels : List Text} : tagLabels x.text = labels ↔ IsTagList x labels := by
  have list : x.text ∈ Token.tagList.language :=
    token ▸ whole.mem_language (by simp [token]) (by simp [token])
  rw [tagLabels_eq_iff list]
  exact ⟨fun ⟨text, names⟩ => ⟨token, text, names⟩, fun h => ⟨h.text, h.names⟩⟩

theorem readTags_eq_ok_iff {x : Lexeme} (whole : x.Whole) {labels : List Text} :
    readTags x = .ok labels ↔ IsTagList x labels := by
  by_cases token : x.token = .tagList
  · rw [readTags, if_pos token, Except.ok.injEq, tagLabels_eq_iff_of_token whole token]
  · rw [readTags, if_neg token]
    constructor
    · intro h
      cases h
    · intro h
      exact absurd h.token token

theorem readTime_eq_ok_iff {x : Lexeme} {time : Moment} :
    readTime now x = .ok time ↔
      x.token = .quoted ∧ TimeExpr.read (Text.inner x.text) now = .ok time := by
  by_cases token : x.token = .quoted
  · rw [readTime, if_pos token]
    cases TimeExpr.read (Text.inner x.text) now <;> simp [token]
  · simp [readTime, token]

theorem readSort_eq_ok_iff {sort : Option SortOrder} {x : Lexeme} {o : SortOrder} :
    readSort sort x = .ok o ↔
      sort = none ∧ x.token = .quoted ∧ SortOrder.read (Text.inner x.text) = .ok o := by
  by_cases token : x.token = .quoted
  · cases sort with
    | none =>
      rw [readSort, if_pos token]
      cases SortOrder.read (Text.inner x.text) <;> simp [token]
    | some first => simp [readSort, token]
  · simp [readSort, token]

/-! ### Items -/

/-- What the tokens of a phrase without its sign stand for. `today` is the bound `newer` at the
moment a day before the clock. -/
inductive IsItem (now yesterday : Moment) : List Lexeme → Item → Prop
  | always {x : Lexeme} (key : x.token = .keyword .always) :
    IsItem now yesterday [x] (.condition .always)
  | read {x : Lexeme} {s : ReadState} (key : x.token = .keyword (.read s)) :
    IsItem now yesterday [x] (.condition (.read s))
  | mark {x : Lexeme} {s : MarkState} (key : x.token = .keyword (.mark s)) :
    IsItem now yesterday [x] (.condition (.mark s))
  | tagged {x : Lexeme} (key : x.token = .keyword .tagged) :
    IsItem now yesterday [x] (.condition .tagged)
  | lastSync {x : Lexeme} (key : x.token = .keyword .lastSync) :
    IsItem now yesterday [x] (.condition .lastSync)
  | today {x : Lexeme} (key : x.token = .keyword .today) :
    IsItem now yesterday [x] (.condition (.bound .newer yesterday))
  | word {x : Lexeme} (token : x.token = .word) :
    IsItem now yesterday [x] (.condition (.field .all (.word x.text)))
  | field {x y : Lexeme} {f : Field} {term : SearchTerm} (key : x.token = .keyword (.field f))
    (found : IsTerm y term) : IsItem now yesterday [x, y] (.condition (.field f term))
  | labels {x : Lexeme} {labels : List Text} (list : IsTagList x labels) :
    IsItem now yesterday [x] (.condition (.tag labels))
  | tag {x y : Lexeme} {labels : List Text} (key : x.token = .keyword .tag)
    (list : IsTagList y labels) : IsItem now yesterday [x, y] (.condition (.tag labels))
  | bound {x y : Lexeme} {b : Bound} {time : Moment} (key : x.token = .keyword (.bound b))
    (quoted : y.token = .quoted) (found : TimeExpr.read (Text.inner y.text) now = .ok time) :
    IsItem now yesterday [x, y] (.condition (.bound b time))
  | sort {x y : Lexeme} {o : SortOrder} (key : x.token = .keyword .sort)
    (quoted : y.token = .quoted) (found : SortOrder.read (Text.inner y.text) = .ok o) :
    IsItem now yesterday [x, y] (.sort o)

theorem dayBefore_of_after? (day : now.after? (-(Duration.day : Int)) = some yesterday) :
    dayBefore now = .ok yesterday := by
  rw [dayBefore, day]

/-- What an item is read from is what the grammar says. -/
theorem isItem_of_readItem (day : now.after? (-(Duration.day : Int)) = some yesterday)
    {sort : Option SortOrder} {x : Lexeme} {xs rest : List Lexeme} {item : Item}
    (whole : ∀ y ∈ x :: xs, y.Whole) (h : readItem now length sort x xs = .ok (item, rest)) :
    ∃ taken, xs = taken ++ rest ∧ IsItem now yesterday (x :: taken) item ∧
      ∀ o, item = .sort o → sort = none := by
  obtain ⟨first, behind⟩ := List.forall_mem_cons.1 whole
  have condition : ∀ (atom : Atom) (o : SortOrder), Item.condition atom = .sort o → sort = none := by
    intro atom o same
    cases same
  unfold readItem at h
  split at h
  case h_2 key =>
    cases h
    exact ⟨[], rfl, .always key, condition _⟩
  case h_3 s key =>
    cases h
    exact ⟨[], rfl, .read key, condition _⟩
  case h_4 s key =>
    cases h
    exact ⟨[], rfl, .mark key, condition _⟩
  case h_5 key =>
    cases h
    exact ⟨[], rfl, .tagged key, condition _⟩
  case h_6 key =>
    cases h
    exact ⟨[], rfl, .lastSync key, condition _⟩
  case h_7 key =>
    rw [dayBefore_of_after? day] at h
    cases h
    exact ⟨[], rfl, .today key, condition _⟩
  case h_8 f key =>
    obtain ⟨y, rfl, hy⟩ := readSecond_eq_ok.1 h
    obtain ⟨term, found, rfl⟩ := map_eq_ok_iff.1 hy
    exact ⟨[y], rfl, .field key (readTerm_eq_ok_iff.1 found), condition _⟩
  case h_9 key =>
    obtain ⟨y, rfl, hy⟩ := readSecond_eq_ok.1 h
    obtain ⟨labels, found, rfl⟩ := map_eq_ok_iff.1 hy
    have second : y.Whole := behind y List.mem_cons_self
    exact ⟨[y], rfl, .tag key ((readTags_eq_ok_iff second).1 found), condition _⟩
  case h_10 b key =>
    obtain ⟨y, rfl, hy⟩ := readSecond_eq_ok.1 h
    obtain ⟨time, found, rfl⟩ := map_eq_ok_iff.1 hy
    obtain ⟨quoted, read⟩ := readTime_eq_ok_iff.1 found
    exact ⟨[y], rfl, .bound key quoted read, condition _⟩
  case h_11 key =>
    obtain ⟨y, rfl, hy⟩ := readSecond_eq_ok.1 h
    obtain ⟨o, found, rfl⟩ := map_eq_ok_iff.1 hy
    obtain ⟨unsorted, quoted, read⟩ := readSort_eq_ok_iff.1 found
    exact ⟨[y], rfl, .sort key quoted read, fun _ _ => unsorted⟩
  case h_12 token =>
    cases h
    exact ⟨[], rfl, .labels ((tagLabels_eq_iff_of_token first token).1 rfl), condition _⟩
  case h_13 token =>
    cases h
    exact ⟨[], rfl, .word token, condition _⟩
  all_goals simp [failAt] at h

/-- What the grammar says is an item is read as one, whatever follows it. -/
theorem readItem_of_isItem (day : now.after? (-(Duration.day : Int)) = some yesterday)
    {sort : Option SortOrder} {x : Lexeme} {taken : List Lexeme} {item : Item}
    (whole : ∀ y ∈ x :: taken, y.Whole) (h : IsItem now yesterday (x :: taken) item)
    (unsorted : ∀ o, item = .sort o → sort = none) (rest : List Lexeme) :
    readItem now length sort x (taken ++ rest) = .ok (item, rest) := by
  obtain ⟨first, behind⟩ := List.forall_mem_cons.1 whole
  cases h with
  | always key | read key | mark key | tagged key | lastSync key | word key =>
    simp [readItem, key]
  | today key => simp [readItem, key, dayBefore_of_after? day, Except.map]
  | field key found =>
    have read := readTerm_eq_ok_iff.2 found
    simp [readItem, key, readSecond, read, Except.map]
  | labels list =>
    have read := (tagLabels_eq_iff_of_token first list.token).2 list
    simp [readItem, list.token, read]
  | @tag _ y labels key list =>
    have read := (readTags_eq_ok_iff (behind y List.mem_cons_self)).2 list
    simp [readItem, key, readSecond, read, Except.map]
  | bound key quoted found =>
    have read := readTime_eq_ok_iff.2 ⟨quoted, found⟩
    simp [readItem, key, readSecond, read, Except.map]
  | @sort _ y o key quoted found =>
    have read := readSort_eq_ok_iff.2 ⟨unsorted o rfl, quoted, found⟩
    simp [readItem, key, readSecond, read, Except.map]

theorem IsItem.exists_cons {tokens : List Lexeme} {item : Item}
    (h : IsItem now yesterday tokens item) :
    ∃ x taken, tokens = x :: taken ∧ x.token ≠ .keyword .negate := by
  cases h with
  | always key | read key | mark key | tagged key | lastSync key | today key | word key =>
    exact ⟨_, [], rfl, by simp [key]⟩
  | labels list => exact ⟨_, [], rfl, by simp [list.token]⟩
  | field key | tag key | bound key | sort key => exact ⟨_, [_], rfl, by simp [key]⟩

/-! ### Phrases -/

/-- An item of a query with its tokens, perhaps with a sign before it. -/
structure Phrase where
  sign : Option Lexeme
  tokens : List Lexeme
  item : Item

namespace Phrase

/-- The tokens of a phrase with its sign. -/
def lexemes (u : Phrase) : List Lexeme := u.sign.toList ++ u.tokens

/-- The clause that a phrase leaves, in which a sign turns a bound into the opposite one. -/
def clause? (u : Phrase) : Option Clause :=
  match u.item with
  | .condition atom => some (atom.signed u.sign.isSome)
  | .sort _ => none

/-- The sort order that a phrase gives, for which a sign does not matter. -/
def sort? (u : Phrase) : Option SortOrder :=
  match u.item with
  | .condition _ => none
  | .sort o => some o

/-- Whether a phrase stands for its item: its sign is one, and its tokens are those of the item. -/
structure Valid (now yesterday : Moment) (u : Phrase) : Prop where
  sign : ∀ x ∈ u.sign, x.token = .keyword .negate
  item : IsItem now yesterday u.tokens u.item

end Phrase

/-- What phrases make of what has been read without a filter. -/
structure Gives (p : Progress) (us : List Phrase) (q : Progress) : Prop where
  unfiltered : q.filter = none
  clauses : q.clauses = p.clauses ++ us.filterMap Phrase.clause?
  sort : q.sort.toList = p.sort.toList ++ us.filterMap Phrase.sort?

theorem gives_nil {p : Progress} (unfiltered : p.filter = none) {q : Progress} :
    Gives p [] q ↔ q = p := by
  constructor
  · rintro ⟨filter, clauses, sort⟩
    have same : q.sort = p.sort := by simpa using congrArg List.head? sort
    calc
      q = ⟨q.filter, q.clauses, q.sort⟩ := rfl
      _ = ⟨p.filter, p.clauses ++ [], p.sort⟩ := by rw [filter, unfiltered, same, clauses]; rfl
      _ = p := by rw [List.append_nil]
  · rintro rfl
    exact ⟨unfiltered, by simp, by simp⟩

section Taking

variable {p : Progress} {u : Phrase}

theorem filter_take (unfiltered : p.filter = none) (negated : Bool) (item : Item) :
    (p.take negated item).filter = none := by
  cases item with
  | condition atom =>
    rw [Progress.take, Progress.add_of_none unfiltered]
    exact unfiltered
  | sort o => exact unfiltered

theorem clauses_take (unfiltered : p.filter = none) :
    (p.take u.sign.isSome u.item).clauses = p.clauses ++ u.clause?.toList := by
  obtain ⟨sign, tokens, item⟩ := u
  cases item with
  | condition atom =>
    show (p.add sign.isSome atom).clauses = p.clauses ++ [atom.signed sign.isSome]
    rw [Progress.add_of_none unfiltered, Progress.push]
  | sort o => exact (List.append_nil p.clauses).symm

/-- A sort order is taken where there has been none. -/
theorem sort_take (unfiltered : p.filter = none)
    (unsorted : ∀ o, u.item = .sort o → p.sort = none) :
    (p.take u.sign.isSome u.item).sort.toList = p.sort.toList ++ u.sort?.toList := by
  obtain ⟨sign, tokens, item⟩ := u
  cases item with
  | condition atom =>
    show (p.add sign.isSome atom).sort.toList = p.sort.toList ++ []
    rw [Progress.add_of_none unfiltered, Progress.push, List.append_nil]
  | sort o =>
    rw [unsorted o rfl]
    rfl

theorem filterMap_cons_toList {β : Type} (f : Phrase → Option β) (us : List Phrase) :
    (u :: us).filterMap f = (f u).toList ++ us.filterMap f := by
  rw [List.filterMap_eq_flatMap_toList, List.flatMap_cons, List.filterMap_eq_flatMap_toList]

/-- The first phrase gives its item, which is no second sort order. -/
theorem gives_cons (unfiltered : p.filter = none) {us : List Phrase} {q : Progress} :
    Gives p (u :: us) q ↔ (∀ o, u.item = .sort o → p.sort = none) ∧
      Gives (p.take u.sign.isSome u.item) us q := by
  constructor
  · intro h
    have unsorted : ∀ o, u.item = .sort o → p.sort = none := by
      intro o same
      -- the sort orders of all that has been read are one at most
      have given : u.sort? = some o := by rw [Phrase.sort?, same]
      have lengths := congrArg List.length h.sort
      have short : q.sort.toList.length ≤ 1 := Option.length_toList_le
      rw [filterMap_cons_toList, given, List.length_append, List.length_append,
        Option.toList_some, List.length_singleton] at lengths
      have empty : p.sort.toList.length = 0 := by omega
      exact Option.toList_eq_nil_iff.1 (List.length_eq_zero_iff.1 empty)
    refine ⟨unsorted, h.unfiltered, ?_, ?_⟩
    · rw [clauses_take unfiltered, List.append_assoc, ← filterMap_cons_toList, h.clauses]
    · rw [sort_take unfiltered unsorted, List.append_assoc, ← filterMap_cons_toList, h.sort]
  · rintro ⟨unsorted, h⟩
    refine ⟨h.unfiltered, ?_, ?_⟩
    · rw [h.clauses, clauses_take unfiltered, List.append_assoc, ← filterMap_cons_toList]
    · rw [h.sort, sort_take unfiltered unsorted, List.append_assoc, ← filterMap_cons_toList]

end Taking

/-! ### Reading phrases -/

/-- What has been read is a row of phrases. The sign that has just been read, if there is one,
belongs to the first of them. -/
theorem exists_phrases_of_readFrom (day : now.after? (-(Duration.day : Int)) = some yesterday)
    {negated : Bool} {p q : Progress} {xs : List Lexeme}
    (h : readFrom now length negated p xs = .ok q) (whole : ∀ x ∈ xs, x.Whole)
    (unfiltered : p.filter = none) (sign : Option Lexeme) (same : sign.isSome = negated)
    (signs : ∀ x ∈ sign, x.token = .keyword .negate) :
    ∃ us : List Phrase, (∀ u ∈ us, u.Valid now yesterday) ∧
      sign.toList ++ xs = us.flatMap Phrase.lexemes ∧ Gives p us q := by
  induction h using reading_induction generalizing sign with
  | done =>
    obtain rfl : sign = none := by simpa using same
    exact ⟨[], List.forall_mem_nil _, rfl, (gives_nil unfiltered).2 rfl⟩
  | @negate p x xs key rest _ ih =>
    obtain rfl : sign = none := by simpa using same
    have sub := (List.forall_mem_cons.1 whole).2
    exact ih sub unfiltered (some x) rfl (by simpa using key)
  | @item negated p x taken ys item key takes rest _ ih =>
    rw [← List.cons_append] at whole
    obtain ⟨mine, others⟩ := List.forall_mem_append.1 whole
    obtain ⟨us, valid, tokens, gives⟩ :=
      ih others (filter_take unfiltered negated item) none rfl nofun
    have reads := takes.reads 0 []
    rw [List.append_nil] at reads
    obtain ⟨taken, split, isItem, unsorted⟩ := isItem_of_readItem day mine reads
    rw [List.append_nil] at split
    obtain rfl := split
    let u : Phrase := ⟨sign, x :: taken, item⟩
    refine ⟨u :: us, List.forall_mem_cons.2 ⟨⟨signs, isItem⟩, valid⟩, ?_, ?_⟩
    · rw [List.flatMap_cons, ← tokens]
      simp [u, Phrase.lexemes]
    · refine (gives_cons unfiltered).2 ⟨unsorted, ?_⟩
      rw [← same] at gives
      exact gives

/-- A phrase is read as its item. -/
theorem readFrom_phrase (day : now.after? (-(Duration.day : Int)) = some yesterday)
    {u : Phrase} (valid : u.Valid now yesterday) (whole : ∀ x ∈ u.tokens, x.Whole)
    {p : Progress} (unsorted : ∀ o, u.item = .sort o → p.sort = none) (xs : List Lexeme) :
    readFrom now length false p (u.lexemes ++ xs) =
      readFrom now length false (p.take u.sign.isSome u.item) xs := by
  obtain ⟨sign, tokens, item⟩ := u
  obtain ⟨signs, isItem⟩ := valid
  obtain ⟨x, taken, rfl, key⟩ := isItem.exists_cons
  have reads : ∀ negated, readFrom now length negated p (x :: (taken ++ xs)) =
      readFrom now length false (p.take negated item) xs := by
    intro negated
    rw [readFrom_cons key, readItem_of_isItem day whole isItem unsorted]
    rfl
  cases sign with
  | none => exact reads false
  | some y =>
    have negate : y.token = .keyword .negate := signs y rfl
    have tokens : Phrase.lexemes ⟨some y, x :: taken, item⟩ ++ xs = y :: x :: (taken ++ xs) := rfl
    rw [tokens, readFrom_cons_of_negate negate, if_neg Bool.false_ne_true]
    exact reads true

/-- A row of phrases is read. -/
theorem readFrom_of_gives (day : now.after? (-(Duration.day : Int)) = some yesterday)
    {us : List Phrase} (valid : ∀ u ∈ us, u.Valid now yesterday)
    (whole : ∀ x ∈ us.flatMap Phrase.lexemes, x.Whole) {p q : Progress}
    (unfiltered : p.filter = none) (gives : Gives p us q) :
    readFrom now length false p (us.flatMap Phrase.lexemes) = .ok q := by
  induction us generalizing p with
  | nil =>
    obtain rfl := (gives_nil unfiltered).1 gives
    exact readFrom_nil ..
  | cons u us ih =>
    obtain ⟨first, others⟩ := List.forall_mem_cons.1 valid
    rw [List.flatMap_cons] at whole ⊢
    obtain ⟨mine, rest⟩ := List.forall_mem_append.1 whole
    have tokens : ∀ x ∈ u.tokens, x.Whole := fun x hx => mine x (List.mem_append_right _ hx)
    obtain ⟨unsorted, gives⟩ := (gives_cons unfiltered).1 gives
    rw [readFrom_phrase day first tokens unsorted]
    exact ih others rest (filter_take unfiltered _ _) gives

theorem readWith_eq_ok_iff (day : now.after? (-(Duration.day : Int)) = some yesterday) {t : Text}
    {p : Progress} :
    readWith none t now = .ok p ↔
      ∃ us : List Phrase, (∀ u ∈ us, u.Valid now yesterday) ∧
        tokenize t = us.flatMap Phrase.lexemes ∧ Gives (.start none) us p := by
  have whole : ∀ x ∈ tokenize t, x.Whole := whole_of_mem 0 t
  constructor
  · intro h
    exact exists_phrases_of_readFrom day h whole rfl none rfl nofun
  · rintro ⟨us, valid, tokens, gives⟩
    rw [readWith, tokens]
    rw [tokens] at whole
    exact readFrom_of_gives day valid whole rfl gives

theorem toList_eq_iff {sort : Option SortOrder} {sorts : List SortOrder} :
    sort.toList = sorts ↔ sorts.length ≤ 1 ∧ sort = sorts.head? := by
  constructor
  · rintro rfl
    exact ⟨Option.length_toList_le, by simp⟩
  · rintro ⟨short, rfl⟩
    match sorts, short with
    | [], _ => rfl
    | [_], _ => rfl

/-- A text is read as a query exactly if its tokens are a row of phrases of which at most one gives
a sort order. Its clauses are then those of the phrases, in their order, and its sort order is that
of the phrase that gives one. The calendar reaches the moment a day before the clock. -/
theorem read_iff_phrases {now yesterday : Moment}
    (day : now.after? (-(Duration.day : Int)) = some yesterday) {t : Text} {q : Query} :
    Query.read t now = .ok q ↔
      ∃ us : List Phrase, (∀ u ∈ us, u.Valid now yesterday) ∧
        tokenize t = us.flatMap Phrase.lexemes ∧ (us.filterMap Phrase.sort?).length ≤ 1 ∧
        q = ⟨t, us.filterMap Phrase.clause?, (us.filterMap Phrase.sort?).head?⟩ := by
  rw [Query.read, map_eq_ok_iff]
  constructor
  · rintro ⟨p, found, rfl⟩
    obtain ⟨us, valid, tokens, gives⟩ := (readWith_eq_ok_iff day).1 found
    obtain ⟨short, sort⟩ := toList_eq_iff.1 gives.sort
    refine ⟨us, valid, tokens, short, ?_⟩
    rw [gives.clauses, sort]
    rfl
  · rintro ⟨us, valid, tokens, short, rfl⟩
    have gives : Gives (.start none) us
        ⟨none, us.filterMap Phrase.clause?, (us.filterMap Phrase.sort?).head?⟩ :=
      ⟨rfl, rfl, toList_eq_iff.2 ⟨short, rfl⟩⟩
    exact ⟨_, (readWith_eq_ok_iff day).2 ⟨us, valid, tokens, gives⟩, rfl⟩

/-- Four phrases at a clock in Central Europe. The sign before `today` asks for what is older, the
one before the sort order is lost, and neither reaches the phrase behind it. -/
theorem read_iff_phrases_signs :
    ∃ yesterday : Moment,
      Moment.after? ⟨⟨63844963200000000, by decide +kernel⟩, 3600000000, by decide⟩
        (-(Duration.day : Int)) = some yesterday ∧
      Query.read "~today unread ~sort:\"date\" ~#a,#b"
        ⟨⟨63844963200000000, by decide +kernel⟩, 3600000000, by decide⟩ =
          .ok ⟨"~today unread ~sort:\"date\" ~#a,#b",
            [⟨.bound .older yesterday, false⟩, ⟨.read .unread, false⟩, ⟨.tag ["a", "b"], true⟩],
            some ⟨[⟨.date, .ascending⟩], by decide⟩⟩ := by
  have day : Moment.after? ⟨⟨63844963200000000, by decide +kernel⟩, 3600000000, by decide⟩
      (-(Duration.day : Int)) =
        some ⟨⟨63844876800000000, by decide +kernel⟩, 3600000000, by decide⟩ := by
    decide +kernel
  refine ⟨_, day, (read_iff_phrases day).2 ⟨[
    ⟨some ⟨.keyword .negate, 0, "~"⟩, [⟨.keyword .today, 1, "today"⟩],
      .condition (.bound .newer ⟨⟨63844876800000000, by decide +kernel⟩, 3600000000, by decide⟩)⟩,
    ⟨none, [⟨.keyword (.read .unread), 7, "unread"⟩], .condition (.read .unread)⟩,
    ⟨some ⟨.keyword .negate, 14, "~"⟩,
      [⟨.keyword .sort, 15, "sort:"⟩, ⟨.quoted, 20, "\"date\""⟩],
      .sort ⟨[⟨.date, .ascending⟩], by decide⟩⟩,
    ⟨some ⟨.keyword .negate, 27, "~"⟩, [⟨.tagList, 28, "#a,#b"⟩], .condition (.tag ["a", "b"])⟩],
    ?_, by decide +kernel, by decide, rfl⟩⟩
  simp only [List.forall_mem_cons]
  refine ⟨⟨by simp, .today rfl⟩, ⟨by simp, .read rfl⟩, ⟨by simp, .sort rfl rfl (by decide +kernel)⟩,
    ⟨by simp, .labels ⟨rfl, by decide, by decide⟩⟩, List.forall_mem_nil _⟩

end FeedReader.Query
