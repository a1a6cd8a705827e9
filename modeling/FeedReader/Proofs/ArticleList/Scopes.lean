import FeedReader.Proofs.ArticleList.Simulation

/-!
# Setting the read state of a scope

A scope means some of the articles of a loaded list, which may not be what the source holds by now.
Setting the read state of these articles changes nothing else, neither in memory nor in a store:
the source lists the same articles in the same order, and has the same feeds, tags and taggings.

* `Shelf.replaceRead`, `Shelf.foldl_replaceRead`: in memory, articles may be replaced one by one;
* `Store.ArticleRow.article?_setRead`, `Store.articles?_empty`: the rows of a store, and what it
  lists without a condition;
* `ArticleSource.SetsRead`: the same for what a source shows;
* `Session.step_setScopeRead_only`.
-/

namespace FeedReader

variable {ids : List Text} {state : ReadState}

/-! ### Articles in memory -/

namespace Shelf

/-- Replaces the article with an identifier by one in another read state, if there is one. -/
def replaceRead (state : ReadState) (s : Shelf) (id : Text) : Shelf :=
  match s.articles.find? (·.id = id) with
  | some a => { s with articles := put s.articles { a with read := state } }
  | none => s

theorem setRead_eq (s : Shelf) (ids : List Text) (state : ReadState) :
    s.setRead ids state = { s with articles := s.articles.map (·.setRead ids state) } := rfl

theorem setRead_nil (s : Shelf) (state : ReadState) : s.setRead [] state = s := by
  simp [setRead]

theorem setRead_cons (s : Shelf) (id : Text) (ids : List Text) (state : ReadState) :
    s.setRead (id :: ids) state = (s.setRead [id] state).setRead ids state := by
  simp only [setRead_eq, List.map_map]
  congr 1
  refine List.map_congr_left fun a _ => ?_
  by_cases first : a.id = id <;> by_cases later : a.id ∈ ids <;>
    simp [Article.setRead, first, later]

/-- With one article for each identifier, the one that is replaced is the only one that changes. -/
theorem replaceRead_eq {s : Shelf} (unique : (s.articles.map (·.id)).Nodup) (id : Text) :
    s.replaceRead state id = s.setRead [id] state := by
  unfold replaceRead
  split
  · next a found =>
    obtain rfl : a.id = id := by simpa using List.find?_some found
    have stored : a ∈ s.articles := List.mem_of_find?_eq_some found
    have known : s.articles.any (·.id = a.id) := by simpa using ⟨a, stored, rfl⟩
    rw [put, if_pos known, setRead_eq]
    congr 1
    refine List.map_congr_left fun b hb => ?_
    by_cases same : b.id = a.id
    · obtain rfl : b = a := List.inj_on_of_nodup_map unique hb stored same
      simp [Article.setRead]
    · simp [Article.setRead, same]
  · next missing =>
    have others : ∀ a ∈ s.articles, a.id ≠ id := by simpa using missing
    have same : s.articles.map (·.setRead [id] state) = s.articles := by
      refine (List.map_congr_left fun a ha => ?_).trans (List.map_id _)
      simp [Article.setRead, others a ha]
    rw [setRead_eq, same]

/-- Replacing articles one by one sets the read state of all of them. -/
theorem foldl_replaceRead {s : Shelf} (unique : (s.articles.map (·.id)).Nodup) (ids : List Text) :
    ids.foldl (replaceRead state) s = s.setRead ids state := by
  induction ids generalizing s with
  | nil => exact (s.setRead_nil state).symm
  | cons id ids ih =>
    rw [List.foldl_cons, replaceRead_eq unique, ih (by rwa [map_id_setRead]), ← setRead_cons]

end Shelf

/-! ### Articles in a store -/

namespace Store

theorem ArticleRow.compare_setRead (a b : ArticleRow) :
    (a.setRead ids state).compare (b.setRead ids state) = a.compare b := by
  unfold setRead
  split <;> split <;> rfl

theorem ArticleRow.article?_setRead (r : ArticleRow) :
    (r.setRead ids state).article? = r.article?.map (·.setRead ids state) := by
  cases named : r.id with
  | none => simp [setRead, article?, named]
  | some id =>
    by_cases given : id ∈ ids
    · cases state <;> simp [setRead, article?, Article.setRead, named, given, read, mark]
    · simp [setRead, article?, Article.setRead, named, given]

/-- Without a condition all articles are listed. -/
theorem articles?_empty (s : Store) :
    s.articles? .empty =
      some (s.tables.articles.reverse.mergeSort fun a b => a.compare b != .gt) := by
  have all : s.tables.articles.reverse.filter (fun r => [].all (Comparison.holds r)) =
      s.tables.articles.reverse := List.filter_eq_self.2 fun _ _ => rfl
  rw [← all]
  rfl

end Store

/-! ### What a source shows -/

/-- Whether a source shows what another one does, but for the read state of the articles with the
given identifiers, which has been set. -/
structure ArticleSource.SetsRead {σ : Type} [ArticleSource σ] (ids : List Text) (state : ReadState)
    (s t : σ) : Prop where
  articles : articles? t .empty = (articles? s .empty).map (·.map (·.setRead ids state))
  library : library t = library s

theorem Shelf.setsRead (s : Shelf) (ids : List Text) (state : ReadState) :
    ArticleSource.SetsRead ids state s (s.setRead ids state) where
  articles := by
    have all (s : Shelf) : s.select .empty = s.articles := List.filter_eq_self.2 fun _ _ => rfl
    simp only [ArticleSource.articles?, all, setRead_eq, Option.map_some]
  library := rfl

theorem Store.setsRead (s : Store) (ids : List Text) (state : ReadState) :
    ArticleSource.SetsRead ids state s (s.setRead (ids.map some) state).2 where
  articles := by
    simp only [ArticleSource.articles?, articles?_empty, tables_setRead, Option.map_some]
    rw [← List.map_reverse, ← List.map_mergeSort fun a _ b _ => by rw [ArticleRow.compare_setRead],
      List.filterMap_map, List.map_filterMap]
    refine congrArg some (congrArg (List.filterMap · _) (funext fun r => ?_))
    exact r.article?_setRead
  library := s.library_update _ _

/-! ### Scopes -/

/-- All articles of a list are meant by `%`, and those that meet all clauses by a query, in the
order of the list. Setting the read state of a scope gives the identifiers of the articles that it
means, and sets the state of those that the source holds; everything else stays as it is, and where
it is. In memory this is what replacing the articles one by one comes to. -/
theorem Session.step_setScopeRead_only (n : Nat) (scope : ActionScope) (state : ReadState)
    (current : Option Text) (lastSync : Moment) :
    (∀ v : ArticleView, v.resolve .all current lastSync = v.articles.map (·.id) ∧
      ∀ q, v.resolve (.query q) current lastSync =
        (v.articles.filter fun a =>
          ∀ c ∈ q.clauses, c.holds (.ofArticle v.library lastSync a)).map (·.id)) ∧
      (∀ s : Session Shelf,
        let ids := (s.view n).resolve scope current lastSync
        ∃ t, s.step (.setScopeRead n scope state current lastSync) =
            (.resolved ids, { s with source := t }) ∧
          ArticleSource.SetsRead ids state s.source t ∧
          t = { s.source with articles := s.source.articles.map (·.setRead ids state) } ∧
          ((s.source.articles.map (·.id)).Nodup →
            t = ids.foldl (Shelf.replaceRead state) s.source)) ∧
      ∀ s : Session Store,
        let ids := (s.view n).resolve scope current lastSync
        ∃ t, s.step (.setScopeRead n scope state current lastSync) =
            (.resolved ids, { s with source := t }) ∧
          ArticleSource.SetsRead ids state s.source t ∧
          t.tables = { s.source.tables with
            articles := s.source.tables.articles.map (·.setRead ids state) } := by
  refine ⟨fun v => ⟨rfl, fun q => ?_⟩, fun s => ?_, fun s => ?_⟩
  · refine congrArg (List.map Article.id) (List.filter_congr fun a _ => ?_)
    rw [Bool.eq_iff_iff, Query.holds, List.all_eq_true, decide_eq_true_iff]
  · intro ids
    exact ⟨_, rfl, s.source.setsRead ids state, rfl,
      fun unique => (Shelf.foldl_replaceRead unique ids).symm⟩
  · intro ids
    exact ⟨_, rfl, s.source.setsRead ids state, s.source.tables_setRead ids state⟩

/-- A list that shows two articles, of which only the second one is still there, next to one that
the list does not show; in memory, and in a store. -/
theorem Session.step_setScopeRead_only_stale :
    let now : Moment := .ofUtc ⟨0, by decide⟩
    let a : Article := ⟨['a'], ['f'], now, now, none, none, none, none, .unread, .unmarked⟩
    let b : Article := { a with id := ['b'] }
    let c : Article := { a with id := ['c'] }
    let shown : ArticleView := ⟨[a, b], .empty⟩
    let row (x : Article) : Store.ArticleRow :=
      ⟨some x.id, x.feed, now.wall, now.wall, none, none, none, none, true, false⟩
    let s : Session Shelf := ⟨⟨[b, c], .empty⟩, {}, [shown]⟩
    let d : Session Store :=
      ⟨⟨.empty, { Store.Tables.empty with articles := [row b, row c] }⟩, {}, [shown]⟩
    let (answer, t) := s.step (.setScopeRead 0 .all .read none now)
    let (answer', u) := d.step (.setScopeRead 0 .all .read none now)
    (s.source.articles.map (·.id)).Nodup ∧ answer = .resolved [['a'], ['b']] ∧
      t.source = [['a'], ['b']].foldl (Shelf.replaceRead .read) s.source ∧
      t.source.articles = [{ b with read := .read }, c] ∧ answer' = .resolved [['a'], ['b']] ∧
      u.source.tables = { d.source.tables with
        articles := [{ row b with unread := false }, row c] } := by
  intro now a b c shown row s d
  have unique : (s.source.articles.map (·.id)).Nodup := by decide
  obtain ⟨-, memory, stored⟩ := step_setScopeRead_only 0 .all .read none now
  obtain ⟨t, stepped, -, source, replaced⟩ := memory s
  obtain ⟨u, stepped', -, tables⟩ := stored d
  rw [stepped, stepped']
  exact ⟨unique, rfl, replaced unique, by rw [source]; decide, rfl, by rw [tables]; decide⟩

end FeedReader
