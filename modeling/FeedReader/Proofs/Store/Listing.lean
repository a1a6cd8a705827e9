import FeedReader.Proofs.Store.Batches
import FeedReader.Proofs.Store.Sql

/-!
# Listing stored articles

The store evaluates a filter on stamps, and gives the articles that pass it.

* `ArticleRow.article?_ofArticle`: how a stored article is given back;
* `all_holds_of_comparisons?`: the comparisons of a filter mean the filter;
* `insertArticles_ofArticle`: storing articles with different identifiers;
* `articles?_of_rows`: the articles that a store with known rows lists;
* `articles?_addArticles`.
-/

namespace FeedReader

/-- Entries that differ in something differ from those before them. -/
theorem not_mem_map_of_nodup {α β : Type} {f : α → β} {l before after : List α} {a : α}
    (nodup : (l.map f).Nodup) (split : l = before ++ a :: after) : f a ∉ before.map f := by
  rw [split, List.map_append, List.map_cons, List.nodup_append] at nodup
  exact fun old => nodup.2.2 _ old _ List.mem_cons_self rfl

namespace Store

/-! ### Stored articles -/

/-- A stored article is given back with its times in UTC. -/
theorem ArticleRow.article?_ofArticle (a : Article) : (ofArticle a).article? = some a.onUtc := by
  have read : (ofArticle a).read = a.read := by
    cases h : a.read <;> simp [ArticleRow.read, ofArticle, h]
  have mark : (ofArticle a).mark = a.mark := by
    cases h : a.mark <;> simp [ArticleRow.mark, ofArticle, h]
  rw [article?, read, mark]
  rfl

theorem ArticleRow.compare_ofArticle {a b : Article} (ha : a.HasUtc) (hb : b.HasUtc) :
    ArticleRow.compare (ofArticle a) (ofArticle b) = a.compareListed b := by
  simp [ArticleRow.compare, ofArticle, Article.compareListed, Text.compareOption,
    Moment.compare_stamp hb.1 ha.1]

/-! ### Evaluating a filter -/

theorem timeComparison?_eq {make : Text → Comparison} {time : Option Moment}
    (h : ∀ m, time = some m → m.utc?.isSome) :
    timeComparison? make time = some (time.map fun m => make m.utcWall.stamp).toList := by
  cases time with
  | none => rfl
  | some m => simp [timeComparison?, Moment.stamp?, Moment.utc?_eq (h m rfl), Moment.ofUtc]

theorem comparisons?_eq {f : ArticleFilter} (h : f.HasUtc) :
    comparisons? f = some
      ((f.read.map fun s => Comparison.unread (s = .unread)).toList ++
        (f.mark.map fun s => Comparison.marked (s = .marked)).toList ++
        (f.newerThan.map fun m => Comparison.dateAfter m.utcWall.stamp).toList ++
        (f.olderThan.map fun m => Comparison.dateBefore m.utcWall.stamp).toList ++
        (f.syncedAfter.map fun m => Comparison.syncedAfter m.utcWall.stamp).toList ++
        (f.syncedBefore.map fun m => Comparison.syncedBefore m.utcWall.stamp).toList) := by
  have newer : timeComparison? .dateAfter f.newerThan = _ := timeComparison?_eq (h .newer)
  have older : timeComparison? .dateBefore f.olderThan = _ := timeComparison?_eq (h .older)
  have after : timeComparison? .syncedAfter f.syncedAfter = _ :=
    timeComparison?_eq (h .syncedAfter)
  have before : timeComparison? .syncedBefore f.syncedBefore = _ :=
    timeComparison?_eq (h .syncedBefore)
  rw [comparisons?, newer, older, after, before]
  rfl

theorem compare_stamp_eq_lt {a b : Moment} (ha : a.utc?.isSome) (hb : b.utc?.isSome) :
    decide (Text.compare a.utcWall.stamp b.utcWall.stamp = .lt) = a.isBefore b := by
  rw [Moment.compare_stamp ha hb, Moment.isBefore, decide_eq_decide, Int.compare_eq_lt]

theorem all_toList_map {α : Type} {o : Option α} {make : α → Comparison} {r : ArticleRow}
    {p : α → Bool} (h : ∀ x, o = some x → (make x).holds r = p x) :
    (o.map make).toList.all (·.holds r) = o.all p := by
  cases o with
  | none => rfl
  | some x => simp [h x rfl]

/-- The comparisons of a filter mean the filter. -/
theorem all_holds_of_comparisons? {f : ArticleFilter} (hf : f.HasUtc) {cs : List Comparison}
    (h : comparisons? f = some cs) {a : Article} (ha : a.HasUtc) :
    cs.all (·.holds (.ofArticle a)) = f.holds a := by
  rw [comparisons?_eq hf] at h
  obtain rfl := Option.some.inj h
  -- each condition of the filter has one comparison
  have read : ∀ s, f.read = some s →
      (Comparison.unread (s = .unread)).holds (.ofArticle a) = decide (a.read = s) := by
    intro s _
    cases s <;> cases h : a.read <;> simp [Comparison.holds, ArticleRow.ofArticle, h]
  have mark : ∀ s, f.mark = some s →
      (Comparison.marked (s = .marked)).holds (.ofArticle a) = decide (a.mark = s) := by
    intro s _
    cases s <;> cases h : a.mark <;> simp [Comparison.holds, ArticleRow.ofArticle, h]
  have newer : ∀ m, f.newerThan = some m →
      (Comparison.dateAfter m.utcWall.stamp).holds (.ofArticle a) = Bound.newer.holds a m := by
    intro m hm
    rw [Comparison.holds, Bound.holds]
    exact compare_stamp_eq_lt (hf .newer m hm) ha.1
  have older : ∀ m, f.olderThan = some m →
      (Comparison.dateBefore m.utcWall.stamp).holds (.ofArticle a) = Bound.older.holds a m := by
    intro m hm
    rw [Comparison.holds, Bound.holds]
    exact compare_stamp_eq_lt ha.1 (hf .older m hm)
  have after : ∀ m, f.syncedAfter = some m →
      (Comparison.syncedAfter m.utcWall.stamp).holds (.ofArticle a) =
        Bound.syncedAfter.holds a m := by
    intro m hm
    rw [Comparison.holds, Bound.holds]
    exact compare_stamp_eq_lt (hf .syncedAfter m hm) ha.2
  have before : ∀ m, f.syncedBefore = some m →
      (Comparison.syncedBefore m.utcWall.stamp).holds (.ofArticle a) =
        Bound.syncedBefore.holds a m := by
    intro m hm
    rw [Comparison.holds, Bound.holds]
    exact compare_stamp_eq_lt ha.2 (hf .syncedBefore m hm)
  rw [List.all_append, List.all_append, List.all_append, List.all_append, List.all_append,
    all_toList_map read, all_toList_map mark, all_toList_map newer, all_toList_map older,
    all_toList_map after, all_toList_map before, Bool.and_right_comm, ArticleFilter.holds]

/-! ### Storing articles -/

theorem sameText_some {s t : Text} : sameText (some s) (some t) = true ↔ t = s := by
  simp [sameText, eq_comm]

/-- Articles with identifiers of their own are stored one after the other. -/
theorem insertArticles_ofArticle {t : Tables} {stored articles : List Article}
    (rows : t.articles = stored.map .ofArticle) (ids : ((stored ++ articles).map (·.id)).Nodup)
    (dates : ∀ a ∈ articles, a.HasUtc) :
    t.insertArticles (articles.map .ofArticle) =
      (some articles.length, { t with articles := (stored ++ articles).map .ofArticle }) := by
  have fresh : ∀ a ∈ articles, ¬ t.HasArticle a.id := by
    rintro a ha ⟨r, hr, same⟩
    obtain ⟨b, hb, rfl⟩ := List.mem_map.1 (rows ▸ hr)
    rw [List.map_append, List.nodup_append] at ids
    exact ids.2.2 b.id (List.mem_map_of_mem hb) a.id (List.mem_map_of_mem ha) (Option.some.inj same)
  rw [List.map_append, List.nodup_append] at ids
  rw [insertArticles_eq dates, newArticles_eq_self fresh ids.2.1, Tables.withArticles,
    List.map_append, rows]

/-! ### Listing -/

/-- The articles that a store lists, if its rows are those of known articles. -/
theorem articles?_of_rows {s : Store} {stored : List Article}
    (rows : s.tables.articles = stored.map .ofArticle) (ids : (stored.map (·.id)).Nodup)
    (dates : ∀ a ∈ stored, a.HasUtc) {f : ArticleFilter} (bounds : f.HasUtc) :
    ∃ listed : List Article, listed.Perm (stored.filter f.holds) ∧
      listed.Pairwise Article.Precedes ∧ s.articles? f = some (listed.map .ofArticle) := by
  obtain ⟨cs, hcs⟩ : ∃ cs, comparisons? f = some cs := ⟨_, comparisons?_eq bounds⟩
  -- among articles with one order the rows are read from the first or from the last one
  obtain ⟨found, perm, read_rows⟩ : ∃ found : List Article, found.Perm stored ∧
      (if f.read.isSome then s.tables.articles else s.tables.articles.reverse) =
        found.map .ofArticle := by
    split
    · exact ⟨stored, .refl _, rows⟩
    · exact ⟨stored.reverse, stored.reverse_perm, by rw [rows, List.map_reverse]⟩
  have utc : ∀ a ∈ found, a.HasUtc := fun a ha => dates a (perm.mem_iff.1 ha)
  have pass : (found.map ArticleRow.ofArticle).filter (fun r => cs.all (·.holds r)) =
      (found.filter f.holds).map .ofArticle := by
    rw [List.filter_map]
    refine congrArg _ (List.filter_congr fun a ha => ?_)
    exact all_holds_of_comparisons? bounds hcs (utc a ha)
  have sorted : ((found.filter f.holds).map ArticleRow.ofArticle).mergeSort
        (fun a b => a.compare b != .gt) =
      ((found.filter f.holds).mergeSort fun a b => a.compareListed b != .gt).map .ofArticle := by
    refine (List.map_mergeSort fun a ha b hb => ?_).symm
    rw [ArticleRow.compare_ofArticle (utc a (List.mem_filter.1 ha).1)
      (utc b (List.mem_filter.1 hb).1)]
  have passed := perm.filter f.holds
  refine ⟨(found.filter f.holds).mergeSort fun a b => a.compareListed b != .gt,
    (List.mergeSort_perm _ _).trans passed, ?_, ?_⟩
  · -- two articles do not compare equal, since their identifiers differ
    have apart : ((found.filter f.holds).mergeSort fun a b => a.compareListed b != .gt).Pairwise
        fun a b => a.id ≠ b.id := by
      have nodup : ((stored.filter f.holds).map (·.id)).Nodup :=
        ids.sublist (List.filter_sublist.map _)
      have unique := ((((found.filter f.holds).mergeSort_perm
        fun a b => a.compareListed b != .gt).trans passed).map fun a => a.id).nodup_iff.2 nodup
      exact List.pairwise_map.1 unique
    refine ((pairwise_sort _).and apart).imp fun ⟨le, ne⟩ => ?_
    refine Article.compareListed_eq_lt.1 (Ordering.isLE_iff_eq_lt_or_eq_eq.1 le |>.resolve_right ?_)
    exact fun eq => ne (Article.id_of_compareListed eq)
  · rw [Store.articles?, hcs, Option.map_some]
    simp only
    rw [read_rows, pass, sorted]

/-- After articles have been stored, a filter lists those that pass it, each once, from new to old
and then by identifier. The text of the filter's condition means the filter, too. -/
theorem articles?_addArticles {s : Store} (none_stored : s.tables.articles = [])
    {articles : List Article} (ids : (articles.map (·.id)).Nodup)
    (dates : ∀ a ∈ articles, a.HasUtc) {f : ArticleFilter} (bounds : f.HasUtc) :
    ∃ t : Store, s.addArticles (articles.map .ofArticle) = (.ok articles.length, t) ∧
      (∃ listed : List Article, (t.articles? f).map (·.map (·.article?)) = some (listed.map some) ∧
        (listed.map (·.content)).Perm ((articles.filter f.holds).map (·.content)) ∧
        listed.Pairwise Article.Precedes) ∧
      ∃ cs, comparisons? f = some cs ∧ ∀ a ∈ articles,
        meets? (.ofArticle a) (Text.words (sqlOf cs)) (cs.map (·.parameter)) =
          some (f.holds a) := by
  have inserted := @insertArticles_ofArticle s.tables [] articles none_stored ids dates
  refine ⟨saving { s.tables with articles := articles.map .ofArticle }, ?_, ?_,
    _, comparisons?_eq bounds, fun a ha => ?_⟩
  · rw [addArticles, inserted]
    rfl
  · obtain ⟨listed, perm, order, found⟩ := @articles?_of_rows
      (saving { s.tables with articles := articles.map .ofArticle }) articles rfl ids dates f bounds
    have utc : ∀ a ∈ listed, a.HasUtc := fun a ha =>
      dates a (List.mem_filter.1 (perm.mem_iff.1 ha)).1
    refine ⟨listed.map (·.onUtc), ?_, ?_, ?_⟩
    · rw [found, Option.map_some, List.map_map, List.map_map]
      exact congrArg some (List.map_congr_left fun a _ => ArticleRow.article?_ofArticle a)
    · rw [List.map_map]
      have content : listed.map (Article.content ∘ Article.onUtc) = listed.map (·.content) :=
        List.map_congr_left fun a ha => Article.content_onUtc (utc a ha)
      rw [content]
      exact perm.map _
    · refine List.pairwise_map.2 (order.imp_of_mem fun ha hb before => ?_)
      exact (Article.precedes_onUtc (utc _ ha) (utc _ hb)).2 before
  · rw [meets?_sqlOf, all_holds_of_comparisons? bounds (comparisons?_eq bounds) (dates a ha)]

/-- Two articles of one feed whose times are given with different offsets, and a bound between
them. -/
theorem articles?_addArticles_two :
    ∃ t : Store, Store.empty.addArticles (List.map NewArticle.ofArticle
        [⟨"a", "f", ⟨⟨60, by decide⟩, 50, by decide⟩, .ofUtc ⟨0, by decide⟩, none, none, none, none,
            .read, .unmarked⟩,
          ⟨"b", "f", ⟨⟨40, by decide⟩, -50, by decide⟩, .ofUtc ⟨0, by decide⟩, none, none, none,
            none, .unread, .unmarked⟩]) = (.ok 2, t) ∧
      ∃ listed : List Article,
        (t.articles? { newerThan := some ⟨⟨80, by decide⟩, 60, by decide⟩ }).map
            (·.map (·.article?)) = some (listed.map some) ∧
          listed.Pairwise Article.Precedes := by
  obtain ⟨t, added, ⟨listed, found, -, order⟩, -⟩ := @articles?_addArticles Store.empty rfl
    [⟨"a", "f", ⟨⟨60, by decide⟩, 50, by decide⟩, .ofUtc ⟨0, by decide⟩, none, none, none, none,
        .read, .unmarked⟩,
      ⟨"b", "f", ⟨⟨40, by decide⟩, -50, by decide⟩, .ofUtc ⟨0, by decide⟩, none, none, none, none,
        .unread, .unmarked⟩] (by decide) (by
      simp only [List.mem_cons, List.not_mem_nil, or_false, forall_eq_or_imp, forall_eq]
      exact ⟨⟨by decide, by decide⟩, ⟨by decide, by decide⟩⟩)
    { newerThan := some ⟨⟨80, by decide⟩, 60, by decide⟩ } (by
      intro b m hm
      cases b <;> simp only [ArticleFilter.bound?, reduceCtorEq, Option.some.injEq] at hm
      subst hm
      decide)
  exact ⟨t, added, listed, found, order⟩

end Store

end FeedReader
