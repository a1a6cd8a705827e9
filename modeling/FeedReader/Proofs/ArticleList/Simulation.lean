import FeedReader.Proofs.Query.Bounds
import FeedReader.Proofs.Store.Fill

/-!
# A store lists articles as memory does

A session with a store gives the same answers as one with the same records in memory.

* `Article.setRead`, `Store.ArticleRow.setRead`: an article and its row in another read state, with
  what that makes of a shelf and of the tables of a store;
* `Store.Mirrors`: a store that holds the articles on a shelf;
* `Store.Mirrors.articles?`, `Store.Mirrors.setRead`: listing articles, and setting their state;
* `ArticleList.HasUtc`, `ArticleList.hasUtc_of_run`: a command leaves a filter that a store can
  evaluate;
* `Session.Simulates`, with what a step and a session keep, and `Session.run_fill`.
-/

namespace FeedReader

/-! ### Setting read states -/

/-- The article in another read state if it is among those with the given identifiers. -/
def Article.setRead (ids : List Text) (state : ReadState) (a : Article) : Article :=
  if ids.contains a.id then { a with read := state } else a

namespace Article

variable {ids : List Text} {state : ReadState}

theorem id_setRead (ids : List Text) (state : ReadState) (a : Article) :
    (a.setRead ids state).id = a.id := by
  unfold setRead
  split <;> rfl

theorem hasUtc_setRead {a : Article} : (a.setRead ids state).HasUtc ↔ a.HasUtc := by
  unfold setRead
  split <;> rfl

theorem precedes_setRead {a b : Article} :
    (a.setRead ids state).Precedes (b.setRead ids state) ↔ a.Precedes b := by
  unfold setRead
  split <;> split <;> rfl

end Article

theorem Shelf.map_id_setRead (s : Shelf) (ids : List Text) (state : ReadState) :
    (s.setRead ids state).articles.map (·.id) = s.articles.map (·.id) := by
  rw [setRead, List.map_map]
  exact List.map_congr_left fun a _ => a.id_setRead ids state

namespace Store

/-- The row in another read state if its identifier is one of the given ones. -/
def ArticleRow.setRead (ids : List Text) (state : ReadState) (r : ArticleRow) : ArticleRow :=
  if ∃ id ∈ ids, r.id = some id then { r with unread := state = .unread } else r

/-- The row of an article is set to the state that the article is set to. -/
theorem ArticleRow.ofArticle_setRead (ids : List Text) (state : ReadState) (a : Article) :
    ofArticle (a.setRead ids state) = (ofArticle a).setRead ids state := by
  by_cases given : a.id ∈ ids
  · simp [Article.setRead, setRead, ofArticle, given]
  · simp [Article.setRead, setRead, ofArticle, given]

/-- An update changes the rows with the given identifiers, of which there may be none. -/
theorem tables_update (s : Store) (ids : List (Option Text)) (change : ArticleRow → ArticleRow) :
    (s.update ids change).2.tables = s.tables.updateArticles ids change := by
  unfold update
  split
  · next none_given =>
    obtain rfl := List.isEmpty_iff.1 none_given
    simp [Tables.updateArticles]
  · rfl

theorem tables_setRead (s : Store) (ids : List Text) (state : ReadState) :
    (s.setRead (ids.map some) state).2.tables =
      { s.tables with articles := s.tables.articles.map (·.setRead ids state) } := by
  rw [Store.setRead, tables_update, Tables.updateArticles]
  congr 1
  refine List.map_congr_left fun r _ => ?_
  have given : (r.id.isSome && (ids.map some).contains r.id) =
      decide (∃ id ∈ ids, r.id = some id) := by
    cases r.id <;> simp [List.contains_eq_mem]
  simp only [given, decide_eq_true_eq, ArticleRow.setRead]

theorem library_update (s : Store) (ids : List (Option Text)) (change : ArticleRow → ArticleRow) :
    (s.update ids change).2.library = s.library := by
  unfold update
  split <;> rfl

end Store

/-! ### Sources -/

/-- Whether a store holds the articles on a shelf. If the order counts, they stand there from new to
old and then by identifier. -/
structure Store.Mirrors (ordered : Bool) (s : Shelf) (t : Store) : Prop where
  library : s.library.Agrees t.library
  articles : ∃ stored : List Article, t.tables.articles = stored.map .ofArticle ∧
    stored.Perm s.articles
  ids : (s.articles.map (·.id)).Nodup
  times : ∀ a ∈ s.articles, a.HasUtc
  order : ordered → s.articles.Pairwise Article.Precedes

/-- A store that is filled with records holds those that stand in memory. -/
theorem Store.mirrors_fill (r : Records) {ordered : Bool}
    (order : ordered → r.articles.Pairwise Article.Precedes) :
    Mirrors ordered r.shelf r.store := by
  obtain ⟨mappings, tables⟩ := tables_fill r
  have articles : r.shelf.articles = r.articles := Shelf.articles_ofList r.article_ids r.library
  exact
    { library := library_agrees r
      articles := ⟨r.articles, by rw [tables], .of_eq articles.symm⟩
      ids := by rw [articles]; exact r.article_ids
      times := by rw [articles]; exact r.article_times
      order := by rw [articles]; exact order }

namespace Store.Mirrors

variable {ordered : Bool} {s : Shelf} {t : Store}

/-- A filter lets through the same articles. -/
theorem articles? (h : Mirrors ordered s t) {f : ArticleFilter} (bounds : f.HasUtc) :
    ∃ listed : List Article, ArticleSource.articles? t f = some (listed.map (·.onUtc)) ∧
      Alike ordered (s.select f) listed ∧ ∀ a ∈ listed, a.HasUtc := by
  obtain ⟨stored, rows, perm⟩ := h.articles
  obtain ⟨listed, passed, sorted, found⟩ := articles?_of_rows rows
    ((perm.map _).nodup_iff.2 h.ids) (fun a ha => h.times a (perm.mem_iff.1 ha)) bounds
  have same : listed.Perm (s.select f) := passed.trans (perm.filter _)
  refine ⟨listed, ?_, ?_, fun a ha => h.times a (List.mem_filter.1 (same.mem_iff.1 ha)).1⟩
  · have back : (listed.map ArticleRow.ofArticle).filterMap (·.article?) =
        listed.map (·.onUtc) := by
      rw [List.filterMap_map, ← List.filterMap_eq_map]
      exact congrArg (List.filterMap · listed) (funext ArticleRow.article?_ofArticle)
    simp only [ArticleSource.articles?, found, Option.map_some, back]
  · cases ordered with
    | false => exact same.symm
    | true =>
      -- both lists are in the order in which no two articles tie
      refine List.Perm.eq_of_pairwise (fun a b _ _ before after => ?_)
        ((h.order rfl).filter _) sorted same.symm
      exact absurd after before.asymm

/-- Setting the read state of the same articles keeps the sources alike. -/
theorem setRead (h : Mirrors ordered s t) {ids ids' : List Text} (same : ids.Perm ids')
    (state : ReadState) :
    Mirrors ordered (s.setRead ids state) (t.setRead (ids'.map some) state).2 := by
  -- both sources apply one change to their articles
  have changed : (s.setRead ids state).articles = s.articles.map (·.setRead ids' state) := by
    refine List.map_congr_left fun a _ => ?_
    rw [same.contains_eq]
    rfl
  exact
    { library := by
        rw [Store.setRead, library_update]
        exact h.library
      articles := by
        obtain ⟨stored, rows, perm⟩ := h.articles
        refine ⟨stored.map (·.setRead ids' state), ?_, changed ▸ perm.map _⟩
        rw [tables_setRead, rows, List.map_map, List.map_map]
        exact List.map_congr_left fun a _ => (ArticleRow.ofArticle_setRead ids' state a).symm
      ids := (s.map_id_setRead ids state).symm ▸ h.ids
      times := by
        rw [changed]
        intro b hb
        obtain ⟨a, ha, rfl⟩ := List.mem_map.1 hb
        exact a.hasUtc_setRead.2 (h.times a ha)
      order := by
        rw [changed]
        intro counts
        refine List.pairwise_map.2 ((h.order counts).imp fun before => ?_)
        exact Article.precedes_setRead.2 before }

end Store.Mirrors

/-! ### Commands -/

/-- Whether a store can evaluate the filter of the query that is selected. -/
def ArticleList.HasUtc (l : ArticleList) : Prop := ∀ q, l.selected = some q → q.filter.HasUtc

namespace ArticleList

theorem hasUtc_effectiveFilter {l : ArticleList} (h : l.HasUtc) : l.effectiveFilter.HasUtc := by
  have scope : l.scope.filter.HasUtc := by
    intro b m hb
    cases hs : l.scope <;> cases b <;> simp [hs, ArticleScope.filter, ArticleFilter.bound?] at hb
  unfold effectiveFilter
  cases hq : l.selected with
  | none => exact scope
  | some q =>
    dsimp only
    split
    · exact h q hq
    · exact scope

theorem hasUtc_of_execute {l l' : ArticleList} (h : l.HasUtc) {now : LocalTime} {c : Command}
    (ran : l.execute (.ofUtc now) c = .ok (some l')) : l'.HasUtc := by
  unfold execute at ran
  split at ran
  -- only a query that is selected brings in another filter
  case h_7 q =>
    obtain ⟨split, read, selected⟩ := map_eq_ok_iff.1 ran
    obtain rfl := Option.some.inj selected
    rintro _ ⟨⟩
    exact SplitQuery.hasUtc_of_read read
  case h_8 target scope =>
    split at ran
    · simp at ran
    · obtain rfl := Option.some.inj (Except.ok.inj ran)
      exact h
  case h_9 => simp at ran
  all_goals
    obtain rfl := Option.some.inj (Except.ok.inj ran)
    exact h

/-- A command that is run at a time in UTC leaves a list whose filter a store can evaluate. -/
theorem hasUtc_of_run {l l' : ArticleList} (h : l.HasUtc) {now : LocalTime} {c : Command}
    (ran : l.run (.ofUtc now) c = .ok (some l')) : l'.HasUtc := by
  unfold run at ran
  split at ran
  · exact hasUtc_of_execute h ran
  · simp at ran

end ArticleList

/-! ### Sessions -/

namespace Session

/-- Whether a session with a store is where a session with a shelf is. -/
structure Simulates (ordered : Bool) (s : Session Shelf) (t : Session Store) : Prop where
  source : Store.Mirrors ordered s.source t.source
  list : t.list = s.list
  bounds : s.list.HasUtc
  views : List.Forall₂ (ArticleView.Alike ordered) s.views t.views

namespace Simulates

variable {ordered : Bool} {s : Session Shelf} {t : Session Store}

theorem view (h : Simulates ordered s t) (n : Nat) : (s.view n).Alike ordered (t.view n) := by
  have all {vs ws : List ArticleView} (h : List.Forall₂ (ArticleView.Alike ordered) vs ws) :
      ∀ n : Nat, (vs[n]?.getD .empty).Alike ordered (ws[n]?.getD .empty) := by
    induction h with
    | nil =>
      intro n
      exact ArticleView.alike_empty
    | cons first _ ih =>
      intro n
      cases n with
      | zero => exact first
      | succ n => exact ih n
  exact all h.views n

theorem command (h : Simulates ordered s t) (now : LocalTime) (c : Command) :
    (s.command now c).1.Alike ordered (t.command now c).1 ∧
      Simulates ordered (s.command now c).2 (t.command now c).2 := by
  unfold Session.command
  rw [h.list]
  split
  · next list ran => exact ⟨rfl, h.source, rfl, ArticleList.hasUtc_of_run h.bounds ran, h.views⟩
  · exact ⟨rfl, h⟩
  · exact ⟨rfl, h⟩

theorem load (h : Simulates ordered s t) (lastSync : Moment) :
    (s.load lastSync).1.Alike ordered (t.load lastSync).1 ∧
      Simulates ordered (s.load lastSync).2 (t.load lastSync).2 := by
  obtain ⟨listed, stored, alike, times⟩ :=
    h.source.articles? (ArticleList.hasUtc_effectiveFilter h.bounds)
  obtain ⟨v, w, loaded, loaded', same⟩ :=
    @ArticleList.load?_alike _ _ _ _ _ s.source _ _ _ _ rfl stored alike times h.source.library
      lastSync
  unfold Session.load
  rw [h.list, loaded, loaded']
  refine ⟨same.content, h.source, rfl, h.bounds, ?_⟩
  exact List.rel_append h.views (.cons same .nil)

/-- A step gives the same answer in both sessions, and leaves them at the same place. -/
theorem step (h : Simulates ordered s t) (x : Step) :
    (s.step x).1.Alike ordered (t.step x).1 ∧ Simulates ordered (s.step x).2 (t.step x).2 := by
  cases x with
  | command now c => exact h.command now c
  | load lastSync => exact h.load lastSync
  | setRead ids state =>
    exact ⟨trivial, h.source.setRead (.refl ids) state, h.list, h.bounds, h.views⟩
  | setScopeRead n scope state current lastSync =>
    -- the lists may differ in their order, and so may what a scope means on them
    have ids := (h.view n).resolve scope current lastSync
    exact ⟨ids, h.source.setRead ids.perm state, h.list, h.bounds, h.views⟩

/-- All steps of two sessions give the same answers. -/
theorem run (h : Simulates ordered s t) (steps : List Step) :
    List.Forall₂ (Answer.Alike ordered) (s.run steps) (t.run steps) := by
  induction steps generalizing s t with
  | nil => exact .nil
  | cons x xs ih => exact .cons (h.step x).1 (ih (h.step x).2)

end Simulates

theorem simulates_start (r : Records) {list : ArticleList} (bounds : list.HasUtc) {ordered : Bool}
    (order : ordered → r.articles.Pairwise Article.Precedes) :
    Simulates ordered (start r.shelf list) (start r.store list) :=
  ⟨Store.mirrors_fill r order, rfl, bounds, .nil⟩

/-- A session with a store gives the same answers as one with the same records in memory, up to the
order of the articles; if they stand in memory from new to old and then by identifier, the order is
the same, too. A store takes any number of identifiers at once here; that a database can bound the
number of parameters in one statement is left out. -/
theorem run_fill (r : Records) {list : ArticleList} (bounds : list.HasUtc) (steps : List Step) :
    List.Forall₂ (Answer.Alike false) ((start r.shelf list).run steps)
        ((start r.store list).run steps) ∧
      (r.articles.Pairwise Article.Precedes →
        List.Forall₂ (Answer.Alike true) ((start r.shelf list).run steps)
          ((start r.store list).run steps)) := by
  constructor
  · refine Simulates.run (simulates_start r bounds fun counts => ?_) steps
    exact absurd counts Bool.false_ne_true
  · intro order
    exact Simulates.run (simulates_start r bounds fun _ => order) steps

/-- Two articles of different feeds, of which the newer one has two tags. -/
def twoArticles : Records where
  feeds := [⟨"f", "Zeta", some "http://zeta", none⟩, ⟨"g", "Alpha", none, none⟩]
  mappings := [⟨"g", "News"⟩]
  articles :=
    [⟨"b", "f", ⟨⟨60, by decide⟩, -50, by decide⟩, .ofUtc ⟨0, by decide⟩, none, none, none, none,
        .unread, .unmarked⟩,
      ⟨"a", "g", ⟨⟨70, by decide⟩, 50, by decide⟩, .ofUtc ⟨0, by decide⟩, none, none, none, none,
        .read, .marked⟩]
  tags := [⟨"t", "work", none⟩, ⟨"s", "home", none⟩]
  taggings := [⟨"b", "t"⟩, ⟨"b", "s"⟩]
  feed_ids := by decide
  feed_urls := by decide
  article_ids := by decide
  article_times := by
    simp only [List.mem_cons, List.not_mem_nil, or_false, forall_eq_or_imp, forall_eq]
    exact ⟨⟨by decide, by decide⟩, ⟨by decide, by decide⟩⟩
  tag_ids := by decide
  tag_labels := by decide
  tagging_pairs := by decide

/-- The list is loaded, a query for tagged articles is selected, and what is listed then is read. -/
theorem run_fill_twoArticles :
    List.Forall₂ (Answer.Alike true)
      ((start twoArticles.shelf {}).run
        [.load (.ofUtc ⟨0, by decide⟩),
          .command ⟨0, by decide⟩ (.onQuery .query rfl ⟨"tagged", [⟨.tagged, false⟩], none⟩),
          .load (.ofUtc ⟨0, by decide⟩), .setScopeRead 1 .all .read none (.ofUtc ⟨0, by decide⟩)])
      ((start twoArticles.store {}).run
        [.load (.ofUtc ⟨0, by decide⟩),
          .command ⟨0, by decide⟩ (.onQuery .query rfl ⟨"tagged", [⟨.tagged, false⟩], none⟩),
          .load (.ofUtc ⟨0, by decide⟩),
          .setScopeRead 1 .all .read none (.ofUtc ⟨0, by decide⟩)]) := by
  refine (@run_fill twoArticles {} (fun q selected => ?_) _).2 ?_
  · cases selected
  · exact .cons (by simp [Article.Precedes, Moment.instant]) (.cons (by simp) .nil)

end Session

end FeedReader
