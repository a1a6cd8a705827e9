import FeedReader.Proofs.Query.Locality
import FeedReader.Proofs.Query.Pushdown
import FeedReader.Proofs.Query.Reading

/-!
# Two queries with a blank between them

A query that is read first and a query that is read after it, in the filter that the first one
leaves, are read alike from one text: the clauses of the second come after those of the first, and
errors in it are found further on.

* `readFrom_shift`: reading the same tokens at another place;
* `readFrom_after`, `readFrom_withSort`: what has been read before only matters for the sort order;
* `readWith_append`.
-/

namespace FeedReader.Query

/-! ### Tokens at another place -/

/-- An error that is found further on in a text. -/
def Error.shift (k : Nat) (e : Error) : Error := { e with offset := k + e.offset }

/-- The result of reading the same further on in a text. -/
def Result.shift {α : Type} (k : Nat) (r : Result α) : Result α :=
  r.mapError (Failure.map (Error.shift k))

variable {now : Moment} {length : Nat}

theorem readTags_shift (k : Nat) (x : Lexeme) :
    readTags (x.shift k) = Result.shift k (readTags x) := by
  unfold readTags
  rw [apply_ite (Result.shift k)]
  rfl

theorem readTime_shift (k : Nat) (x : Lexeme) :
    readTime now (x.shift k) = Result.shift k (readTime now x) := by
  unfold readTime
  rw [apply_ite (Result.shift k)]
  cases h : TimeExpr.read (Text.inner x.text) now <;>
    simp only [show (x.shift k).text = x.text from rfl, h] <;> rfl

theorem readSort_shift (k : Nat) (sort : Option SortOrder) (x : Lexeme) :
    readSort sort (x.shift k) = Result.shift k (readSort sort x) := by
  unfold readSort
  rw [apply_ite (Result.shift k), apply_ite (Result.shift k)]
  cases h : SortOrder.read (Text.inner x.text) <;>
    simp only [show (x.shift k).text = x.text from rfl, h] <;> rfl

theorem readTerm_shift (k : Nat) (x : Lexeme) :
    readTerm (x.shift k) = Result.shift k (readTerm x) := by
  unfold readTerm SearchTerm.ofLexeme
  simp only [Lexeme.shift]
  split
  · split <;> rfl
  all_goals rfl

/-- Readers of one token that find the same further on. -/
theorem readSecond_shift (k : Nat) (fault : Fault) {read : Lexeme → Result Item}
    (same : ∀ x : Lexeme, read (x.shift k) = Result.shift k (read x)) (xs : List Lexeme) :
    readSecond (k + length) fault read (xs.map (Lexeme.shift k)) =
      Result.shift k ((readSecond length fault read xs).map fun (item, rest) =>
        (item, rest.map (Lexeme.shift k))) := by
  cases xs with
  | nil => rfl
  | cons x xs =>
    rw [List.map_cons, readSecond, readSecond, same]
    cases read x <;> rfl

theorem Result.map_shift {α β : Type} (k : Nat) (f : α → β) (r : Result α) :
    (Result.shift k r).map f = Result.shift k (r.map f) := by
  cases r <;> rfl

theorem readItem_shift (k : Nat) (sort : Option SortOrder) (x : Lexeme) (xs : List Lexeme) :
    readItem now (k + length) sort (x.shift k) (xs.map (Lexeme.shift k)) =
      Result.shift k ((readItem now length sort x xs).map fun (item, rest) =>
        (item, rest.map (Lexeme.shift k))) := by
  unfold readItem
  simp only [show (x.shift k).token = x.token from rfl]
  split
  case h_7 =>
    unfold dayBefore
    split <;> rfl
  case h_8 | h_9 | h_10 | h_11 =>
    refine readSecond_shift k _ (fun y => ?_) xs
    simp only [readTerm_shift, readTags_shift, readTime_shift, readSort_shift, Result.map_shift]
  all_goals rfl

/-- Reading the same tokens further on gives the same, with the errors further on. -/
theorem readFrom_shift (k : Nat) (negated : Bool) (p : Progress) (xs : List Lexeme) :
    readFrom now (k + length) negated p (xs.map (Lexeme.shift k)) =
      Result.shift k (readFrom now length negated p xs) := by
  induction negated, p, xs using readFrom.induct now length with
  | case1 p => simp only [List.map_nil, readFrom_nil]; rfl
  | case2 negated p hn => simp only [List.map_nil, readFrom_nil, if_neg hn]; rfl
  | case3 p x xs hx =>
    rw [List.map_cons, readFrom_cons_of_negate hx, readFrom_cons_of_negate (x := x.shift k) hx]
    rfl
  | case4 negated p x xs hx hn ih =>
    rw [List.map_cons, readFrom_cons_of_negate hx, readFrom_cons_of_negate (x := x.shift k) hx,
      if_neg hn, if_neg hn, ih]
  | case5 negated p x xs hx e he =>
    rw [List.map_cons, readFrom_cons hx, readFrom_cons (x := x.shift k) hx, readItem_shift, he]
    rfl
  | case6 negated p x xs hx item rest hi ih =>
    rw [List.map_cons, readFrom_cons hx, readFrom_cons (x := x.shift k) hx, readItem_shift, hi]
    exact ih

/-! ### What has been read before -/

/-- What has been read, after the clauses of a text before. -/
def Progress.after (cs : List Clause) (p : Progress) : Progress :=
  { p with clauses := cs ++ p.clauses }

/-- What has been read, with a sort order from a text before. -/
def Progress.withSort (o : SortOrder) (p : Progress) : Progress := { p with sort := some o }

theorem Progress.take_after (cs : List Clause) (p : Progress) (negated : Bool) (item : Item) :
    (p.after cs).take negated item = (p.take negated item).after cs := by
  cases item with
  | sort o => rfl
  | condition atom =>
    obtain ⟨filter, clauses, sort⟩ := p
    cases filter <;> cases atom <;> simp [take, add, after, push]

theorem Progress.take_withSort (o : SortOrder) (p : Progress) (negated : Bool) (atom : Atom) :
    (p.withSort o).take negated (.condition atom) =
      (p.take negated (.condition atom)).withSort o := by
  obtain ⟨filter, clauses, sort⟩ := p
  cases filter <;> cases atom <;> rfl

theorem readFrom_after (cs : List Clause) (negated : Bool) (p : Progress) (xs : List Lexeme) :
    readFrom now length negated (p.after cs) xs =
      (readFrom now length negated p xs).map (Progress.after cs) := by
  induction negated, p, xs using readFrom.induct now length with
  | case1 p => simp only [readFrom_nil]; rfl
  | case2 negated p hn => simp only [readFrom_nil, if_neg hn]; rfl
  | case3 p x xs hx =>
    rw [readFrom_cons_of_negate hx, readFrom_cons_of_negate hx]
    rfl
  | case4 negated p x xs hx hn ih =>
    rw [readFrom_cons_of_negate hx, readFrom_cons_of_negate hx, if_neg hn, if_neg hn, ih]
  | case5 negated p x xs hx e he =>
    rw [readFrom_cons hx, readFrom_cons hx, show (p.after cs).sort = p.sort from rfl, he]
    rfl
  | case6 negated p x xs hx item rest hi ih =>
    rw [readFrom_cons hx, readFrom_cons hx, show (p.after cs).sort = p.sort from rfl, hi]
    exact (congrArg (readFrom now length false · rest) (p.take_after cs negated item)).trans ih

theorem Progress.sort_take (p : Progress) (negated : Bool) (atom : Atom) :
    (p.take negated (.condition atom)).sort = p.sort := by
  obtain ⟨filter, clauses, sort⟩ := p
  cases filter <;> cases atom <;> rfl

/-- A sort order stays when more is read. -/
theorem isSome_sort_of_readFrom {negated : Bool} {p q : Progress} {xs : List Lexeme}
    (h : readFrom now length negated p xs = .ok q) (some : p.sort.isSome) : q.sort.isSome := by
  induction h using reading_induction with
  | done => exact some
  | negate _ _ _ ih => exact ih some
  | @item negated p x taken ys item _ _ _ _ ih =>
    refine ih ?_
    cases item with
    | condition atom => rwa [Progress.sort_take]
    | sort o => rfl

/-- With a sort order from before, a text is read alike if it has no sort order, and otherwise there
is one too many. -/
theorem readFrom_withSort {negated : Bool} {p q : Progress} {xs : List Lexeme} (o : SortOrder)
    (h : readFrom now length negated p xs = .ok q) (unsorted : p.sort = none) :
    (q.sort = none → readFrom now length negated (p.withSort o) xs = .ok (q.withSort o)) ∧
      (q.sort ≠ none → ∃ e : Error, e.fault = .multipleSortOrders ∧
        readFrom now length negated (p.withSort o) xs = .error (.own e)) := by
  induction h using reading_induction with
  | done =>
    constructor
    · intro _
      rw [readFrom_nil, if_neg Bool.false_ne_true]
    · exact fun sorted => absurd unsorted sorted
  | negate hx _ _ ih =>
    rw [readFrom_cons_of_negate hx]
    exact ih unsorted
  | @item negated p x taken ys item hx takes rest _ ih =>
    rw [readFrom_cons hx, show (p.withSort o).sort = some o from rfl]
    cases item with
    | condition atom =>
      rw [takes.condition atom rfl]
      have found := ih (by rw [Progress.sort_take, unsorted])
      rw [← Progress.take_withSort] at found
      exact found
    | sort o' =>
      obtain ⟨e, fault, failed⟩ := takes.sorted o' rfl o length ys
      have sorted : q.sort.isSome := isSome_sort_of_readFrom rest rfl
      rw [failed]
      constructor
      · intro unsorted
        simp [unsorted] at sorted
      · exact fun _ => ⟨e, fault, rfl⟩

/-! ### Two queries -/

/-- Behind a text that has been read, a blank and another text are read in the filter and with the
sort order of the first one, and with its clauses before. -/
theorem readWith_append_eq {f : Option ArticleFilter} {t : Text} {p : Progress}
    (h : readWith f t now = .ok p) (u : Text) :
    readWith f (t ++ ' ' :: u) now = Result.shift (t.length + 1)
      ((readFrom now u.length false ⟨p.filter, [], p.sort⟩ (tokenize u)).map
        (Progress.after p.clauses)) := by
  unfold readWith at h ⊢
  have size : (t ++ ' ' :: u).length = t.length + 1 + u.length := by
    rw [List.length_append, List.length_cons]
    omega
  have again : p = Progress.after p.clauses ⟨p.filter, [], p.sort⟩ := by simp [Progress.after]
  rw [tokenize_append (by decide) (tokens_of_readFrom h), readFrom_append h, size, readFrom_shift,
    ← readFrom_after, ← again]

/-- There is a filter after reading exactly if a filter has been given. -/
theorem isSome_filter_of_readWith {f : Option ArticleFilter} {t : Text} {p : Progress}
    (h : readWith f t now = .ok p) : p.filter.isSome = f.isSome := by
  have splits (g : ArticleFilter) :=
    readFrom_splits now t.length false (tokenize t) (Splits.start g)
  cases f with
  | none =>
    rcases splits .empty with ⟨e, failed, -⟩ | ⟨plain, split, found, -, both⟩
    · simp [readWith, failed] at h
    · obtain rfl : plain = p := Except.ok.inj (found.symm.trans h)
      simp [both.unfiltered]
  | some g =>
    rcases splits g with ⟨e, -, failed⟩ | ⟨plain, split, -, found, both⟩
    · simp [readWith, failed] at h
    · obtain rfl : split = p := Except.ok.inj (found.symm.trans h)
      simp [both.filter]

/-- Reading a text and, in the filter it leaves, another one, is reading both with a blank between
them: the clauses are joined, errors of the second text are found behind the first one, and of two
sort orders the second one is an error. -/
theorem readWith_append (f : Option ArticleFilter) (t u : Text) (now : Moment) {p : Progress}
    (h : readWith f t now = .ok p) :
    p.filter.isSome = f.isSome ∧
    (p.sort = none → ∀ q, readWith p.filter u now = .ok q →
      readWith f (t ++ ' ' :: u) now = .ok ⟨q.filter, p.clauses ++ q.clauses, q.sort⟩) ∧
    (p.sort = none → ∀ e, readWith p.filter u now = .error e →
      readWith f (t ++ ' ' :: u) now =
        .error (e.map fun e => { e with offset := t.length + 1 + e.offset })) ∧
    (∀ o, p.sort = some o → ∀ q, readWith p.filter u now = .ok q → q.sort = none →
      readWith f (t ++ ' ' :: u) now = .ok ⟨q.filter, p.clauses ++ q.clauses, some o⟩) ∧
    (p.sort ≠ none → ∀ q, readWith p.filter u now = .ok q → q.sort ≠ none →
      ∃ e : Error, e.fault = .multipleSortOrders ∧
        readWith f (t ++ ' ' :: u) now = .error (.own e)) := by
  refine ⟨isSome_filter_of_readWith h, ?_⟩
  rw [readWith_append_eq h]
  obtain ⟨filter, clauses, sort⟩ := p
  unfold readWith
  refine ⟨?_, ?_, ?_, ?_⟩
  · rintro rfl q hq
    exact congrArg _ (congrArg _ hq)
  · rintro rfl e he
    exact congrArg _ (congrArg _ he)
  · rintro o rfl q hq unsorted
    have found := (readFrom_withSort o hq rfl).1 unsorted
    exact congrArg _ (congrArg _ found)
  · intro sorted q hq again
    obtain ⟨o, rfl⟩ := Option.ne_none_iff_exists'.1 sorted
    obtain ⟨e, fault, failed⟩ := (readFrom_withSort o hq rfl).2 again
    exact ⟨e.shift _, fault, congrArg _ (congrArg _ failed)⟩

/-- A state that goes into the filter and a search, and behind them a condition and a sort order. -/
theorem readWith_append_sorted :
    readWith (some .empty) "unread title:x" (.ofUtc ⟨0, by decide⟩) =
        .ok ⟨some { read := some .unread }, [⟨.field .title (.word "x"), false⟩], none⟩ ∧
      readWith (some .empty) ("unread title:x".toList ++ ' ' :: "~tagged sort:\"date\"".toList)
          (.ofUtc ⟨0, by decide⟩) =
        .ok ⟨some { read := some .unread },
          [⟨.field .title (.word "x"), false⟩, ⟨.tagged, true⟩],
          some ⟨[⟨.date, .ascending⟩], by decide⟩⟩ := by
  have first : readWith (some .empty) "unread title:x" (.ofUtc ⟨0, by decide⟩) =
      .ok ⟨some { read := some .unread }, [⟨.field .title (.word "x"), false⟩], none⟩ := by
    decide +kernel
  have second : readWith (some { read := some .unread }) "~tagged sort:\"date\""
      (.ofUtc ⟨0, by decide⟩) =
      .ok ⟨some { read := some .unread }, [⟨.tagged, true⟩],
        some ⟨[⟨.date, .ascending⟩], by decide⟩⟩ := by
    decide +kernel
  exact ⟨first, (readWith_append _ _ _ _ first).2.1 rfl _ second⟩

end FeedReader.Query
