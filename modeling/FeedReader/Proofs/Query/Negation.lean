import FeedReader.Proofs.Query.Grammar

/-!
# Negation

A sign before a condition asks for the articles that do not meet it, whether the query is read as it
is or taken apart. Only bounds leave out an article on both sides: one whose time is the given one.

* `Bound.time`, `Atom.IsOn`: the time that a bound is about, and an article that lies on it;
* `Atom.holds_signed`: what a condition and the same condition with a sign hold of;
* `length_clauses_of_readFrom`, `readsAs_of_read`: what is read as one clause is one condition;
* `SplitQuery.meets`, `meets_of_read`: a query of one clause, taken apart;
* `OneOf`, `read_negated`.
-/

namespace FeedReader

/-- The time of an article that a bound is about. -/
def Bound.time (a : Article) : Bound → Moment
  | newer => a.date
  | older => a.date
  | syncedBefore => a.synced
  | syncedAfter => a.synced

/-- An article lies on one side of a time, or on the other one, or at the time itself. -/
theorem Bound.holds_opposite (b : Bound) (a : Article) (time : Moment) :
    b.opposite.holds a time = (!b.holds a time && (b.time a).instant != time.instant) := by
  cases b <;> simp only [opposite, holds, Bound.time, Moment.isBefore] <;> grind

theorem Bound.holds_eq_false {b : Bound} {a : Article} {time : Moment}
    (on : (b.time a).instant = time.instant) : b.holds a time = false := by
  cases b <;> simp_all [holds, Bound.time, Moment.isBefore]

namespace Query

/-! ### Conditions with a sign -/

/-- Whether a condition is a bound at the very time of an article. -/
def Atom.IsOn (a : Article) : Atom → Prop
  | bound b time => (b.time a).instant = time.instant
  | _ => False

/-- Exactly one of two answers is yes, or none of them in an exceptional case. -/
def OneOf (neither : Prop) (yes no : Bool) : Prop :=
  (¬ neither → no = !yes) ∧ (neither → yes = false ∧ no = false)

/-- A condition or the same condition with a sign. -/
theorem Atom.holds_signed (atom : Atom) (x : Subject) :
    OneOf (atom.IsOn x.article) ((atom.signed false).holds x) ((atom.signed true).holds x) := by
  cases atom with
  | bound b time =>
    have here : (Atom.signed false (.bound b time)).holds x = b.holds x.article time :=
      Bool.bne_false _
    have there : (Atom.signed true (.bound b time)).holds x = b.opposite.holds x.article time :=
      Bool.bne_false _
    rw [here, there, Bound.holds_opposite]
    constructor
    · intro (apart : (b.time x.article).instant ≠ time.instant)
      simp [apart]
    · intro (on : (b.time x.article).instant = time.instant)
      simp [on, Bound.holds_eq_false on]
  | _ => exact ⟨fun _ => by simp [Atom.signed, Clause.holds], False.elim⟩

/-! ### Queries of one clause -/

variable {now : Moment} {length : Nat}

/-- Reading without a filter and without a sort order adds a clause for each item. -/
theorem length_clauses_of_readFrom {negated : Bool} {p q : Progress} {xs : List Lexeme}
    (h : readFrom now length negated p xs = .ok q) (unfiltered : p.filter = none)
    (unsorted : q.sort = none) :
    p.clauses.length ≤ q.clauses.length ∧
      (negated = true ∨ xs ≠ [] → p.clauses.length < q.clauses.length) := by
  induction h using reading_induction with
  | done => simp
  | negate _ _ _ ih =>
    obtain ⟨le, more⟩ := ih unfiltered
    exact ⟨le, fun _ => more (.inl rfl)⟩
  | @item negated p x taken ys item _ _ rest _ ih =>
    cases item with
    | condition atom =>
      obtain ⟨le, -⟩ := ih (filter_take unfiltered negated (.condition atom))
      rw [Progress.take, Progress.add_of_none unfiltered, Progress.push, List.length_append,
        List.length_singleton] at le
      exact ⟨by omega, fun _ => by omega⟩
    | sort o =>
      have sorted := isSome_sort_of_readFrom rest rfl
      simp [unsorted] at sorted

/-- A text without a sign that is read as one clause is one condition, which is read alike
everywhere. -/
theorem readsAs_of_read {t : Text} {q : Query} {c : Clause} (h : Query.read t now = .ok q)
    (one : q.clauses = [c]) (unsorted : q.sort = none)
    (unsigned : ∀ x ∈ tokenize t, x.token ≠ .keyword .negate) :
    ∃ atom : Atom, c = atom.signed false ∧ ReadsAs now t (.condition atom) := by
  obtain ⟨p, found, rfl⟩ := map_eq_ok_iff.1 h
  have one : p.clauses = [c] := one
  have unsorted : p.sort = none := unsorted
  unfold readWith at found
  cases tokens : tokenize t with
  | nil =>
    rw [tokens, readFrom_nil, if_neg Bool.false_ne_true] at found
    obtain rfl := Except.ok.inj found
    exact absurd one (List.cons_ne_nil c []).symm
  | cons x xs =>
    have key := unsigned x (tokens ▸ List.mem_cons_self)
    rw [tokens, readFrom_cons key] at found
    obtain ⟨⟨item, ys⟩, reads, rest⟩ := bind_eq_ok_iff.1 found
    obtain ⟨taken, rfl, takes⟩ := exists_takes_of_readItem reads
    have rest : readFrom now t.length false ((Progress.start none).take false item) ys = .ok p :=
      rest
    cases item with
    | sort o =>
      have sorted := isSome_sort_of_readFrom rest rfl
      simp [unsorted] at sorted
    | condition atom =>
      have start : ((Progress.start none).take false (.condition atom)).clauses =
          [atom.signed false] := by
        rw [Progress.take, Progress.add_of_none rfl]
        rfl
      -- a second item would have left a second clause
      obtain rfl : ys = [] := by
        by_contra more
        have grown := length_clauses_of_readFrom rest (filter_take rfl _ _) unsorted
        have longer := grown.2 (.inr more)
        rw [start, one] at longer
        exact Nat.lt_irrefl _ longer
      rw [readFrom_nil, if_neg Bool.false_ne_true] at rest
      obtain rfl := Except.ok.inj rest
      obtain rfl : atom.signed false = c := List.singleton_inj.1 (start.symm.trans one)
      refine ⟨atom, rfl, readsAs_of_tokens tokens key fun length => ?_⟩
      exact takes.condition atom rfl none length []

end Query

/-- Whether an article meets a query that has been taken apart. -/
def SplitQuery.meets (q : SplitQuery) (x : Query.Subject) : Bool :=
  q.filter.holds x.article && q.residual.holds x

namespace Query

/-- A query of one clause asks for the same whether it is read as it is or taken apart. -/
theorem meets_of_read {now : Moment} {t : Text} {q : Query} {c : Clause}
    (h : Query.read t now = .ok q) (one : q.clauses = [c]) :
    ∃ split, SplitQuery.read t now = .ok split ∧ ∀ x, split.meets x = c.holds x := by
  obtain ⟨split, taken⟩ := SplitQuery.exists_read h
  obtain ⟨q', again, -, -, meaning⟩ := SplitQuery.exists_of_read taken
  obtain rfl := Except.ok.inj (again.symm.trans h)
  refine ⟨split, taken, fun x => ?_⟩
  rw [SplitQuery.meets, meaning, one]
  simp [decisive, Clause.isSuperseded]

/-- With a sign before it, a text that is read as one condition without a sign is read as its
opposite. Of the two queries every article meets exactly one, read as they are and taken apart,
unless the condition is a bound at the time of the article, which then meets neither. -/
theorem read_negated {now : Moment} {t : Text} {q : Query} {c : Clause}
    (h : Query.read t now = .ok q) (one : q.clauses = [c]) (unsorted : q.sort = none)
    (unsigned : ∀ x ∈ tokenize t, x.token ≠ .keyword .negate) :
    ∃ opposite split splitOpposite, Query.read ('~' :: t) now = .ok opposite ∧
      SplitQuery.read t now = .ok split ∧ SplitQuery.read ('~' :: t) now = .ok splitOpposite ∧
      ∀ x : Subject, OneOf (c.atom.IsOn x.article) (q.holds x) (opposite.holds x) ∧
        OneOf (c.atom.IsOn x.article) (split.meets x) (splitOpposite.meets x) := by
  obtain ⟨atom, rfl, reads⟩ := readsAs_of_read h one unsorted unsigned
  have clauses : ((Progress.start none).take true (.condition atom)).clauses =
      [atom.signed true] := by
    rw [Progress.take, Progress.add_of_none rfl]
    rfl
  have signed : Query.read ('~' :: t) now = .ok ⟨'~' :: t, [atom.signed true], none⟩ := by
    refine map_eq_ok_iff.2 ⟨_, reads.negated (.start none) rfl, ?_⟩
    rw [clauses, Progress.sort_take]
    rfl
  obtain ⟨split, taken, meets⟩ := meets_of_read h one
  obtain ⟨splitOpposite, takenOpposite, meetsOpposite⟩ := meets_of_read signed rfl
  refine ⟨_, split, splitOpposite, signed, taken, takenOpposite, fun x => ?_⟩
  have same : (atom.signed false).atom = atom := by cases atom <;> rfl
  have opposed := atom.holds_signed x
  have plain : q.holds x = (atom.signed false).holds x := by simp [Query.holds, one]
  have plainOpposite : Query.holds ⟨'~' :: t, [atom.signed true], none⟩ x =
      (atom.signed true).holds x := by simp [Query.holds]
  rw [same, plain, plainOpposite, meets, meetsOpposite]
  exact ⟨opposed, opposed⟩

/-- An article that came exactly a day ago is neither from today nor from before. -/
theorem read_negated_today :
    let now : Moment := .ofUtc ⟨86400000000, by decide +kernel⟩
    let c : Clause := ⟨.bound .newer (.ofUtc ⟨0, by decide⟩), false⟩
    Query.read "today" now = .ok ⟨"today", [c], none⟩ ∧
      (∀ x ∈ tokenize "today", x.token ≠ .keyword .negate) ∧
      ∃ opposite, Query.read ('~' :: "today".toList) now = .ok opposite ∧ ∀ x : Subject,
        (x.article.date.instant ≠ 0 → opposite.holds x = !c.holds x) ∧
          (x.article.date.instant = 0 → c.holds x = false ∧ opposite.holds x = false) := by
  intro now c
  have read : Query.read "today" now = .ok ⟨"today", [c], none⟩ := by decide +kernel
  have unsigned : ∀ x ∈ tokenize "today", x.token ≠ .keyword .negate := by decide +kernel
  obtain ⟨opposite, _, _, signed, _, _, meets⟩ := read_negated read rfl rfl unsigned
  refine ⟨read, unsigned, opposite, signed, fun x => ?_⟩
  have plain : Query.holds ⟨"today", [c], none⟩ x = c.holds x := Bool.and_true _
  rw [← plain]
  exact (meets x).1

end Query

end FeedReader
