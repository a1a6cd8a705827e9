import FeedReader.Proofs.Result
import FeedReader.Query.Reader

/-!
# States and time bounds in a filter

A query can be read with or without a filter that takes up its states and time bounds. The two ways
of reading fail alike, and what they give means the same.

* `Clause.isRead`, `isMark`, `isBound`, `isPushed`: the clauses that a filter takes up;
* `decisive`: the clauses without those whose state a later clause sets again;
* `ArticleFilter.free`: a filter without the states that clauses set;
* `Clause.absorb`: a filter with a clause put into it, and `holds_foldl_absorb`: what a list of
  clauses makes of a filter;
* `Splits`: how reading with and without a filter go together, kept by every item;
* `readInto_agrees_read`;
* `SplitQuery.exists_of_read`: a query taken apart, and the same query read as it is; it settles the
  scope exactly if it has a clause.
-/

namespace FeedReader

namespace Query

/-! ### Clauses that a filter takes up -/

/-- Whether a clause is about the read state. -/
def Clause.isRead (c : Clause) : Bool :=
  match c.atom with
  | .read _ => true
  | _ => false

/-- Whether a clause is about the marked state. -/
def Clause.isMark (c : Clause) : Bool :=
  match c.atom with
  | .mark _ => true
  | _ => false

/-- Whether a clause bounds one of the times. -/
def Clause.isBound (c : Clause) : Bool :=
  match c.atom with
  | .bound _ _ => true
  | _ => false

/-- Whether a clause is about a state or a time. -/
def Clause.isPushed (c : Clause) : Bool := c.isRead || c.isMark || c.isBound

/-- Whether one of the clauses that follow is about the same state. -/
def Clause.isSuperseded (c : Clause) (later : List Clause) : Bool :=
  c.isRead && later.any Clause.isRead || c.isMark && later.any Clause.isMark

/-- The clauses without those about a state that a later clause is about, too. -/
def decisive : List Clause → List Clause
  | [] => []
  | c :: cs => if c.isSuperseded cs then decisive cs else c :: decisive cs

end Query

/-- The filter without the states that clauses are about. -/
def ArticleFilter.free (f : ArticleFilter) (cs : List Query.Clause) : ArticleFilter :=
  { f with
    read := if cs.any Query.Clause.isRead then none else f.read
    mark := if cs.any Query.Clause.isMark then none else f.mark }

namespace Query

/-- The filter with a clause put into it; clauses about neither states nor times leave it alone. -/
def Clause.absorb (f : ArticleFilter) (c : Clause) : ArticleFilter :=
  match c.atom with
  | .read s => f.withRead (if c.negated then s.flip else s)
  | .mark s => f.withMark (if c.negated then s.flip else s)
  | .bound b time => f.narrow b time
  | _ => f

theorem holds_read (x : Subject) (s : ReadState) (negated : Bool) :
    Clause.holds ⟨.read s, negated⟩ x =
      decide (x.article.read = if negated then s.flip else s) := by
  cases hx : x.article.read <;> cases s <;> cases negated <;>
    simp [Clause.holds, Atom.holds, ReadState.flip, hx]

theorem holds_mark (x : Subject) (s : MarkState) (negated : Bool) :
    Clause.holds ⟨.mark s, negated⟩ x =
      decide (x.article.mark = if negated then s.flip else s) := by
  cases hx : x.article.mark <;> cases s <;> cases negated <;>
    simp [Clause.holds, Atom.holds, MarkState.flip, hx]

/-- A clause put into a filter constrains it like the clause itself, unless a later clause sets its
state again. -/
theorem holds_free_absorb (x : Subject) (f : ArticleFilter) (c : Clause) (cs : List Clause)
    (unsigned : c.isBound = true → c.negated = false) :
    (((c.absorb f).free cs).holds x.article && (c.isPushed || c.holds x)) =
      ((f.free (c :: cs)).holds x.article && (c.isSuperseded cs || c.holds x)) := by
  obtain ⟨atom, negated⟩ := c
  cases atom with
  | read s =>
    -- a later clause about the read state decides for both sides
    by_cases later : cs.any Clause.isRead = true
    · simp [ArticleFilter.free, Clause.absorb, ArticleFilter.withRead, Clause.isSuperseded,
        Clause.isPushed, Clause.isRead, Clause.isMark, later]
    · have put : (Clause.absorb f ⟨.read s, negated⟩).free cs =
          (f.free (⟨.read s, negated⟩ :: cs)).withRead (if negated then s.flip else s) := by
        simp [ArticleFilter.free, Clause.absorb, ArticleFilter.withRead, Clause.isRead,
          Clause.isMark, later]
      rw [put, ArticleFilter.holds_withRead, holds_read]
      simp [ArticleFilter.free, Clause.isSuperseded, Clause.isPushed, Clause.isRead,
        Clause.isMark, later]
  | mark s =>
    by_cases later : cs.any Clause.isMark = true
    · simp [ArticleFilter.free, Clause.absorb, ArticleFilter.withMark, Clause.isSuperseded,
        Clause.isPushed, Clause.isRead, Clause.isMark, later]
    · have put : (Clause.absorb f ⟨.mark s, negated⟩).free cs =
          (f.free (⟨.mark s, negated⟩ :: cs)).withMark (if negated then s.flip else s) := by
        simp [ArticleFilter.free, Clause.absorb, ArticleFilter.withMark, Clause.isRead,
          Clause.isMark, later]
      rw [put, ArticleFilter.holds_withMark, holds_mark]
      simp [ArticleFilter.free, Clause.isSuperseded, Clause.isPushed, Clause.isRead,
        Clause.isMark, later]
  | bound b time =>
    -- no negated bound remains, since reading turns it into the opposite one
    obtain rfl : negated = false := unsigned rfl
    have put : (Clause.absorb f ⟨.bound b time, false⟩).free cs =
        (f.free (⟨.bound b time, false⟩ :: cs)).narrow b time := by
      cases b <;> simp [ArticleFilter.free, Clause.absorb, ArticleFilter.narrow,
        ArticleFilter.bound?, ArticleFilter.setBound, Clause.isRead, Clause.isMark]
    rw [put, ArticleFilter.holds_narrow]
    simp [Clause.isSuperseded, Clause.isPushed, Clause.isRead, Clause.isMark, Clause.isBound,
      Clause.holds, Atom.holds]
  | _ =>
    simp [ArticleFilter.free, Clause.absorb, Clause.isSuperseded, Clause.isPushed, Clause.isRead,
      Clause.isMark, Clause.isBound]

theorem all_decisive (x : Subject) (c : Clause) (cs : List Clause) :
    (decisive (c :: cs)).all (·.holds x) =
      ((c.isSuperseded cs || c.holds x) && (decisive cs).all (·.holds x)) := by
  cases h : c.isSuperseded cs <;> simp [decisive, h]

theorem all_residual (x : Subject) (c : Clause) (cs : List Clause) :
    ((c :: cs).filter fun c => !c.isPushed).all (·.holds x) =
      ((c.isPushed || c.holds x) && (cs.filter fun c => !c.isPushed).all (·.holds x)) := by
  cases h : c.isPushed <;> simp [h]

/-- What a list of clauses makes of a filter. The induction goes over the filter that the clause in
front leaves to the others. -/
theorem holds_foldl_absorb (x : Subject) (cs : List Clause) (f : ArticleFilter)
    (unsigned : ∀ c ∈ cs, c.isBound = true → c.negated = false) :
    ((cs.foldl Clause.absorb f).holds x.article &&
        (cs.filter fun c => !c.isPushed).all (·.holds x)) =
      ((f.free cs).holds x.article && (decisive cs).all (·.holds x)) := by
  induction cs generalizing f with
  | nil => simp [ArticleFilter.free, decisive]
  | cons c cs ih =>
    have rest := ih (c.absorb f) fun d hd => unsigned d (List.mem_cons_of_mem _ hd)
    have first := holds_free_absorb x f c cs (unsigned c List.mem_cons_self)
    rw [List.foldl_cons, all_residual, all_decisive, Bool.and_left_comm, rest, Bool.and_left_comm,
      ← Bool.and_assoc, first, Bool.and_assoc]

/-! ### Reading with and without a filter -/

/-- The clause that a condition with a sign makes; a negated bound is the opposite one. -/
def Atom.signed (negated : Bool) : Atom → Clause
  | .bound b time => ⟨.bound (if negated then b.opposite else b) time, false⟩
  | atom => ⟨atom, negated⟩

theorem Atom.negated_signed {negated : Bool} {atom : Atom}
    (h : (atom.signed negated).isBound = true) : (atom.signed negated).negated = false := by
  cases atom <;> simp_all [signed, Clause.isBound]

theorem Progress.add_of_none {p : Progress} (h : p.filter = none) (negated : Bool) (atom : Atom) :
    p.add negated atom = p.push (atom.signed negated) := by
  cases atom <;> simp [add, h, Atom.signed]

theorem Progress.add_of_some {p : Progress} {f : ArticleFilter} (h : p.filter = some f)
    (negated : Bool) (atom : Atom) :
    p.add negated atom =
      if (atom.signed negated).isPushed then
        { p with filter := some ((atom.signed negated).absorb f) }
      else p.push (atom.signed negated) := by
  cases atom <;>
    simp [add, h, Atom.signed, Clause.isPushed, Clause.isRead, Clause.isMark, Clause.isBound,
      Clause.absorb] <;> rfl

/-- How far two readers have come, of which the second one has been given a filter. -/
structure Splits (f : ArticleFilter) (plain split : Progress) : Prop where
  unfiltered : plain.filter = none
  unsigned : ∀ c ∈ plain.clauses, c.isBound = true → c.negated = false
  filter : split.filter = some (plain.clauses.foldl Clause.absorb f)
  clauses : split.clauses = plain.clauses.filter fun c => !c.isPushed
  sort : split.sort = plain.sort

theorem Splits.start (f : ArticleFilter) : Splits f (.start none) (.start (some f)) where
  unfiltered := rfl
  unsigned := by simp [Progress.start]
  filter := rfl
  clauses := rfl
  sort := rfl

theorem Splits.add {f : ArticleFilter} {plain split : Progress} (h : Splits f plain split)
    (negated : Bool) (atom : Atom) :
    Splits f (plain.add negated atom) (split.add negated atom) := by
  rw [Progress.add_of_none h.unfiltered, Progress.add_of_some h.filter]
  have unsigned : ∀ c ∈ plain.clauses ++ [atom.signed negated], c.isBound = true →
      c.negated = false := by
    simp only [List.mem_append, List.mem_singleton]
    rintro c (hc | rfl)
    · exact h.unsigned c hc
    · exact Atom.negated_signed
  by_cases pushed : (atom.signed negated).isPushed = true
  · rw [if_pos pushed]
    exact ⟨h.unfiltered, unsigned, by simp [Progress.push],
      by simp [Progress.push, pushed, h.clauses], h.sort⟩
  · rw [if_neg pushed]
    -- a clause that stays leaves the filter as it is
    have left : (atom.signed negated).absorb (plain.clauses.foldl Clause.absorb f) =
        plain.clauses.foldl Clause.absorb f := by
      cases atom <;>
        simp_all [Atom.signed, Clause.isPushed, Clause.isRead, Clause.isMark, Clause.isBound,
          Clause.absorb]
    exact ⟨h.unfiltered, unsigned, by simp [Progress.push, left, h.filter],
      by simp [Progress.push, pushed, h.clauses], h.sort⟩

theorem Splits.take {f : ArticleFilter} {plain split : Progress} (h : Splits f plain split)
    (negated : Bool) (item : Item) :
    Splits f (plain.take negated item) (split.take negated item) := by
  cases item with
  | condition atom => exact h.add negated atom
  | sort o => exact ⟨h.unfiltered, h.unsigned, h.filter, h.clauses, rfl⟩

/-- Readers that have come equally far fail alike, or come equally far again. -/
theorem readFrom_splits (now : Moment) (length : Nat) (negated : Bool) (xs : List Lexeme)
    {f : ArticleFilter} {plain split : Progress} (h : Splits f plain split) :
    (∃ e, readFrom now length negated plain xs = .error e ∧
      readFrom now length negated split xs = .error e) ∨
    ∃ plain' split', readFrom now length negated plain xs = .ok plain' ∧
      readFrom now length negated split xs = .ok split' ∧ Splits f plain' split' := by
  induction negated, plain, xs using readFrom.induct now length generalizing split with
  | case1 plain => exact .inl ⟨_, readFrom_nil .., readFrom_nil ..⟩
  | case2 negated plain hn =>
    exact .inr ⟨plain, split, by rw [readFrom_nil, if_neg hn], by rw [readFrom_nil, if_neg hn], h⟩
  | case3 plain y ys hy =>
    exact .inl ⟨_, readFrom_cons_of_negate hy, readFrom_cons_of_negate hy⟩
  | case4 negated plain y ys hy hn ih =>
    simpa only [readFrom_cons_of_negate hy, if_neg hn] using ih h
  | case5 negated plain y ys hy e he =>
    rw [readFrom_cons hy, readFrom_cons hy, h.sort, he]
    exact .inl ⟨e, rfl, rfl⟩
  | case6 negated plain y ys hy item rest hi ih =>
    rw [readFrom_cons hy, readFrom_cons hy, h.sort, hi]
    exact ih (h.take negated item)

/-- Reading a query with a filter fails where reading it without one fails, with the same failure.
Otherwise both give the same sort order, the clauses that are left are those about neither states
nor times, and an article passes the filter and meets what is left exactly if it passes the filter
that was given, freed from the states that the query sets, and meets the decisive clauses. -/
theorem readInto_agrees_read (f : ArticleFilter) (t : Text) (now : Moment) :
    (∃ e, read t now = .error e ∧ readInto f t now = .error e) ∨
    ∃ (q : Query) (s : SplitQuery), read t now = .ok q ∧ readInto f t now = .ok s ∧
      s.residual.sort = q.sort ∧ s.residual.clauses = q.clauses.filter (fun c => !c.isPushed) ∧
      ∀ x : Subject, (s.filter.holds x.article && s.residual.holds x) =
        ((f.free q.clauses).holds x.article && (decisive q.clauses).all (·.holds x)) := by
  rcases readFrom_splits now t.length false (tokenize t) (Splits.start f) with
    ⟨e, plain, split⟩ | ⟨p, q, plain, split, h⟩
  · exact .inl ⟨e, by simp [read, readWith, plain, Except.map],
      by simp [readInto, readWith, split, Except.map]⟩
  · refine .inr ⟨⟨t, p.clauses, p.sort⟩, ⟨q.filter.getD f, ⟨t, q.clauses, q.sort⟩⟩,
      by simp [read, readWith, plain, Except.map], by simp [readInto, readWith, split, Except.map],
      h.sort, h.clauses, ?_⟩
    intro x
    have meaning := holds_foldl_absorb x p.clauses f h.unsigned
    simpa only [h.filter, Option.getD_some, Query.holds, h.clauses] using meaning

/-! ### Queries taken apart -/

/-- A filter sets no condition after a clause has been put into it exactly if it set none before and
the clause is none that a filter takes up. -/
theorem isEmpty_absorb (f : ArticleFilter) (c : Clause) :
    (c.absorb f).isEmpty = (f.isEmpty && !c.isPushed) := by
  obtain ⟨atom, negated⟩ := c
  cases atom with
  | bound b time =>
    cases b <;> simp [Clause.absorb, ArticleFilter.narrow, ArticleFilter.setBound,
      ArticleFilter.isEmpty, Clause.isPushed, Clause.isBound]
  | _ =>
    simp [Clause.absorb, ArticleFilter.withRead, ArticleFilter.withMark, ArticleFilter.isEmpty,
      Clause.isPushed, Clause.isRead, Clause.isMark, Clause.isBound]

theorem isEmpty_foldl_absorb (cs : List Clause) (f : ArticleFilter) :
    (cs.foldl Clause.absorb f).isEmpty = (f.isEmpty && cs.all (!·.isPushed)) := by
  induction cs generalizing f with
  | nil => simp
  | cons c cs ih => rw [List.foldl_cons, ih, isEmpty_absorb, List.all_cons, Bool.and_assoc]

end Query

/-- A query that can be taken apart can be read as it is. Its parts ask together for what its
decisive clauses ask for, and they settle the scope exactly if it has a clause. -/
theorem SplitQuery.exists_of_read {t : Text} {now : Moment} {split : SplitQuery}
    (h : SplitQuery.read t now = .ok split) :
    ∃ q, Query.read t now = .ok q ∧ (split.definesScope = true ↔ q.clauses ≠ []) ∧
      (q.clauses = [] → split.residual.clauses = []) ∧
      ∀ x : Query.Subject, (split.filter.holds x.article && split.residual.holds x) =
        (Query.decisive q.clauses).all (·.holds x) := by
  obtain ⟨p, found, rfl⟩ := map_eq_ok_iff.1 h
  rcases Query.readFrom_splits now t.length false (Query.tokenize t) (.start .empty) with
    ⟨e, -, failed⟩ | ⟨plain, split, read, taken, both⟩
  · simp [Query.readWith, failed] at found
  · obtain rfl : split = p := Except.ok.inj (taken.symm.trans found)
    refine ⟨⟨t, plain.clauses, plain.sort⟩, map_eq_ok_iff.2 ⟨plain, read, rfl⟩, ?_, ?_, ?_⟩
    · -- a clause is left over or the filter has taken it up
      simp only [definesScope, isAugmented, Query.isEmpty, both.filter, both.clauses,
        Option.getD_some, Query.isEmpty_foldl_absorb]
      cases plain.clauses with
      | nil => simp [ArticleFilter.isEmpty, ArticleFilter.empty]
      | cons c cs => cases pushed : c.isPushed <;> simp [pushed]
    · intro none
      exact both.clauses.trans (congrArg (List.filter _) none)
    · intro x
      have meaning := Query.holds_foldl_absorb x plain.clauses .empty both.unsigned
      have free : ArticleFilter.empty.free plain.clauses = .empty := by
        simp [ArticleFilter.free, ArticleFilter.empty]
      rw [free, ArticleFilter.holds_empty, Bool.true_and] at meaning
      simpa only [both.filter, Option.getD_some, Query.holds, both.clauses] using meaning

/-- A query that can be read can be taken apart. -/
theorem SplitQuery.exists_read {t : Text} {now : Moment} {q : Query}
    (h : Query.read t now = .ok q) : ∃ split, SplitQuery.read t now = .ok split := by
  obtain ⟨p, found, -⟩ := map_eq_ok_iff.1 h
  rcases Query.readFrom_splits now t.length false (Query.tokenize t) (.start .empty) with
    ⟨e, failed, -⟩ | ⟨plain, split, -, taken, -⟩
  · simp [Query.readWith, failed] at found
  · exact ⟨_, map_eq_ok_iff.2 ⟨split, taken, rfl⟩⟩

end FeedReader
