import FeedReader.Proofs.Store.Run

/-!
# What a failed operation leaves

An operation that fails makes nothing permanent. It leaves the tables as they are, but for two
cases: articles before the first one without a place on the calendar of UTC stay in the tables, and
a feed that is refused takes back what such articles have left. So a run whose batches of articles
are all on the calendar has nothing to take back, and what fails in it has no effect.

* `NewArticle.HasUtc`, `Operation.HasUtc`: articles that are on the calendar of UTC;
* `insertArticles_isSome`, `insertArticles_of_none`: when a batch is counted, and what one that is
  not leaves in the tables;
* `Store.Settled`, `Settled.run`: stores with nothing to take back;
* `step_run_of_error`.
-/

namespace FeedReader

namespace Store

/-- Whether the calendar of UTC reaches both times of an article. -/
def NewArticle.HasUtc (a : NewArticle) : Prop := a.date.utc?.isSome ∧ a.synced.utc?.isSome

/-- Whether the calendar of UTC reaches the times of the articles that an operation adds. -/
def Operation.HasUtc : Operation → Prop
  | .addArticles articles => ∀ a ∈ articles, a.HasUtc
  | _ => True

/-! ### Batches of articles -/

section Batches

variable {a : NewArticle} {before : List NewArticle}

/-- An article on the calendar is stored if it can be, and the rest of the batch comes after it. -/
theorem insertArticles_cons (h : a.HasUtc) (t : Tables) : ∃ (u : Tables) (new : Nat), ∀ rest,
    t.insertArticles (a :: rest) =
      ((u.insertArticles rest).1.map (· + new), (u.insertArticles rest).2) := by
  obtain ⟨date, hd⟩ := Option.isSome_iff_exists.1 h.1
  obtain ⟨synced, hs⟩ := Option.isSome_iff_exists.1 h.2
  cases inserted : t.insertArticle? a date.wall synced.wall with
  | some u => exact ⟨u, 1, fun rest => by simp only [Tables.insertArticles, hd, hs, inserted]⟩
  | none =>
    refine ⟨t, 0, fun rest => ?_⟩
    simp only [Tables.insertArticles, hd, hs, inserted, Nat.add_zero, Option.map_id']

/-- An article outside the calendar ends a batch. -/
theorem insertArticles_cons_of_not (h : ¬ a.HasUtc) (t : Tables) (rest : List NewArticle) :
    t.insertArticles (a :: rest) = (none, t) := by
  rw [Tables.insertArticles]
  split
  · next date synced hd hs => exact absurd ⟨by rw [hd]; rfl, by rw [hs]; rfl⟩ h
  · rfl

/-- A batch is counted if all its articles are on the calendar. -/
theorem insertArticles_isSome (h : ∀ b ∈ before, b.HasUtc) (t : Tables) :
    (t.insertArticles before).1.isSome := by
  induction before generalizing t with
  | nil => rfl
  | cons b before ih =>
    obtain ⟨hb, rest⟩ := List.forall_mem_cons.1 h
    obtain ⟨u, new, stored⟩ := insertArticles_cons hb t
    rw [stored, Option.isSome_map]
    exact ih rest u

/-- What stands in a batch from the first article outside the calendar on has no effect. -/
theorem snd_insertArticles_append (hb : ∀ b ∈ before, b.HasUtc) (ha : ¬ a.HasUtc) (t : Tables)
    (after : List NewArticle) :
    (t.insertArticles (before ++ a :: after)).2 = (t.insertArticles before).2 := by
  induction before generalizing t with
  | nil =>
    rw [List.nil_append, insertArticles_cons_of_not ha]
    rfl
  | cons b before ih =>
    obtain ⟨hb, rest⟩ := List.forall_mem_cons.1 hb
    obtain ⟨u, new, stored⟩ := insertArticles_cons hb t
    rw [List.cons_append, stored, stored]
    exact ih rest u

/-- A batch that is not all on the calendar has a first article outside it. -/
theorem exists_first_without_utc {articles : List NewArticle} (h : ¬ ∀ b ∈ articles, b.HasUtc) :
    ∃ before a after, articles = before ++ a :: after ∧ (∀ b ∈ before, b.HasUtc) ∧ ¬ a.HasUtc := by
  induction articles with
  | nil => exact absurd (List.forall_mem_nil _) h
  | cons b articles ih =>
    by_cases hb : b.HasUtc
    · obtain ⟨before, a, after, rfl, placed, ha⟩ := ih fun rest =>
        h (List.forall_mem_cons.2 ⟨hb, rest⟩)
      exact ⟨b :: before, a, after, rfl, List.forall_mem_cons.2 ⟨hb, placed⟩, ha⟩
    · exact ⟨[], b, articles, rfl, List.forall_mem_nil _, hb⟩

end Batches

/-! ### Stores with nothing to take back -/

/-- Whether the tables of a store are those that were last made permanent. -/
def Settled (s : Store) : Prop := s.saved = s.tables

variable {s : Store} {x : Operation}

theorem settled_saving (t : Tables) : (saving t).Settled := rfl

theorem Settled.restore (h : s.Settled) : s.restore = s := by
  obtain ⟨saved, tables⟩ := s
  obtain rfl : saved = tables := h
  rfl

/-- An operation leaves nothing to take back, unless it is a batch that is not all on the
calendar. -/
theorem Settled.step (h : s.Settled) (placed : x.HasUtc) : (s.step x).2.Settled := by
  have all := stepped s x
  generalize s.step x = r at all
  cases all with
  | idle | refused => exact h
  | kept => exact settled_saving _
  | restored => rwa [h.restore]
  | ended stored => simpa [stored] using insertArticles_isSome placed s.tables

theorem Settled.run {ops : List Operation} (h : s.Settled) (placed : ∀ x ∈ ops, x.HasUtc) :
    (s.run ops).Settled := by
  induction ops generalizing s with
  | nil => exact h
  | cons x ops ih =>
    obtain ⟨head, tail⟩ := List.forall_mem_cons.1 placed
    exact ih (h.step head) tail

/-! ### Failures -/

/-- A batch that ends early has stored its articles before the first one outside the calendar. -/
theorem insertArticles_of_none {articles : List NewArticle} {t u : Tables}
    (ended : t.insertArticles articles = (none, u)) :
    ∃ before a after, articles = before ++ a :: after ∧ (∀ b ∈ before, b.HasUtc) ∧ ¬ a.HasUtc ∧
      u = (t.insertArticles before).2 := by
  have outside : ¬ ∀ b ∈ articles, b.HasUtc := fun all => by
    simpa [ended] using insertArticles_isSome all t
  obtain ⟨before, a, after, rfl, hb, ha⟩ := exists_first_without_utc outside
  refine ⟨before, a, after, rfl, hb, ha, ?_⟩
  have same := snd_insertArticles_append hb ha t after
  rwa [ended] at same

/-- An operation that fails after a run makes nothing permanent. It has no effect if all the
articles of the run and its own are on the calendar. In general, a feed that is refused brings back
the tables that were last made permanent, articles before the first one outside the calendar stay in
the tables, and every other failure has no effect. -/
theorem step_run_of_error (ops : List Operation) (x : Operation) (e : Failure Error)
    (failed : ((empty.run ops).step x).1 = .error e) :
    let s := empty.run ops
    (s.step x).2.saved = s.saved ∧
      ((∀ y ∈ ops, y.HasUtc) → x.HasUtc → (s.step x).2 = s) ∧
      ((∃ f category, x = .addFeed f category ∧ (s.step x).2.tables = s.saved) ∨
        (∃ before a after, x = .addArticles (before ++ a :: after) ∧
          (∀ b ∈ before, b.HasUtc) ∧ ¬ a.HasUtc ∧
          (s.step x).2.tables = (s.tables.insertArticles before).2) ∨
        (s.step x).2 = s) := by
  intro s
  have all := stepped s x
  generalize s.step x = r at all failed
  cases all with
  | idle | kept => exact absurd failed nofun
  | refused => exact ⟨rfl, fun _ _ => rfl, .inr (.inr rfl)⟩
  | restored f category =>
    exact ⟨rfl, fun placed _ => Settled.restore (Settled.run rfl placed),
      .inl ⟨f, category, rfl, rfl⟩⟩
  | ended stored =>
    obtain ⟨before, a, after, rfl, hb, ha, left⟩ := insertArticles_of_none stored
    exact ⟨rfl, fun _ placed => absurd (placed a (List.mem_append_right _ List.mem_cons_self)) ha,
      .inr (.inl ⟨before, a, after, rfl, hb, ha, left⟩)⟩

/-- A feed that is refused takes an article away that a failed batch has left. -/
theorem step_run_of_error_feed :
    let f : NewFeed := .ofFeed ⟨['f'], ['F'], none, none⟩
    let a : NewArticle := ⟨['a'], ['f'], .ofUtc ⟨0, by decide⟩, .ofUtc ⟨0, by decide⟩, none, none,
      none, none, .unread, .unmarked⟩
    let outside : NewArticle := { a with date := ⟨⟨0, by decide⟩, 1, by decide⟩ }
    let s := empty.run [.addFeed f none, .addArticles [a, outside]]
    s.tables.articles.length = 1 ∧ (s.step (.addFeed f none)).2.tables.articles = [] := by
  intro f a outside s
  have failed : (s.step (.addFeed f none)).1 = .error (.own (.feedExists ['f'] none)) := rfl
  refine ⟨by decide +kernel, ?_⟩
  obtain ⟨-, -, ⟨_, _, -, restored⟩ | ⟨_, _, _, h, -⟩ | same⟩ :=
    step_run_of_error [.addFeed f none, .addArticles [a, outside]] (.addFeed f none) _ failed
  · rw [restored]
    decide +kernel
  · exact absurd h nofun
  · exact absurd same (by decide +kernel)

/-- A batch that fails leaves an article in a store without records. -/
theorem exists_step_of_error_ne :
    ¬ ∀ (ops : List Operation) (x : Operation) (e : Failure Error),
      ((empty.run ops).step x).1 = .error e →
        ((empty.run ops).step x).2.tables = (empty.run ops).tables := by
  intro all
  let a : NewArticle := ⟨['a'], ['f'], .ofUtc ⟨0, by decide⟩, .ofUtc ⟨0, by decide⟩, none, none,
    none, none, .unread, .unmarked⟩
  let outside : NewArticle := { a with date := ⟨⟨0, by decide⟩, 1, by decide⟩ }
  have same := all [] (.addArticles [a, outside]) .outOfCalendar rfl
  exact absurd same (by decide +kernel)

end Store

end FeedReader
