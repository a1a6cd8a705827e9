import FeedReader.Proofs.ArticleList.Agreement
import FeedReader.Proofs.Store.Listing
import Mathlib.Data.List.Find
import Mathlib.Data.List.Nodup

/-!
# Filling a source with records

* `Records`: feeds, articles, tags and taggings that can be told apart;
* `foldl_prefix_induction`: what holds of the records so far when they are handed over one by one;
* `Store.tables_fill`: the rows of a store that has been filled;
* `Store.library_agrees`: such a store looks articles up like the records themselves;
* `Shelf.articles_ofList`.
-/

namespace FeedReader

/-- Records that can be told apart, where the calendar of UTC reaches the times of all articles. -/
structure Records where
  feeds : List Feed
  mappings : List Store.Mapping
  articles : List Article
  tags : List Tag
  taggings : List Tagging
  feed_ids : (feeds.map (·.id)).Nodup
  feed_urls : (feeds.filterMap (·.url)).Nodup
  article_ids : (articles.map (·.id)).Nodup
  article_times : ∀ a ∈ articles, a.HasUtc
  tag_ids : (tags.map (·.id)).Nodup
  tag_labels : (tags.map (·.label)).Nodup
  tagging_pairs : taggings.Nodup

namespace Records

/-- What the articles of the records are looked up in. -/
def library (r : Records) : Library := ⟨r.feeds, r.tags, r.taggings⟩

/-- The records in memory. -/
def shelf (r : Records) : Shelf := .ofList r.articles r.library

/-- The records in a store. -/
def store (r : Records) : Store := .fill r.feeds r.mappings r.articles r.tags r.taggings

end Records

/-! ### One record after the other -/

/-- What holds of no entries, and of some entries and the next one if it holds of those before,
holds of all of them. -/
theorem foldl_prefix_induction {σ α : Type} {f : σ → α → σ} {P : List α → σ → Prop} {l : List α}
    {s : σ} (start : P [] s)
    (next : ∀ before a after s, l = before ++ a :: after → P before s → P (before ++ [a]) (f s a)) :
    P l (l.foldl f s) := by
  suffices h : ∀ before after s, l = before ++ after → P before s → P l (after.foldl f s) from
    h [] l s rfl start
  intro before after
  induction after generalizing before with
  | nil =>
    rintro s rfl hs
    rwa [List.append_nil]
  | cons a after ih =>
    intro s split hs
    exact ih (before ++ [a]) (f s a) (by simp [split]) (next before a after s split hs)

/-! ### Rows -/

namespace Store

/-- The row in which a feed is stored. -/
def FeedRow.ofFeed (f : Feed) : FeedRow := ⟨some f.id, f.label, f.url, f.website⟩

/-- The row in which a tag is stored. -/
def TagRow.ofTag (t : Tag) : TagRow := ⟨some t.id, t.label, t.color⟩

theorem insertMapping?_of_new {t : Tables} {ids : List Text} {id : Text} (new : id ∉ ids)
    (known : ∀ m ∈ t.mappings, m.feed ∈ ids) (category : Option Text) :
    ∃ mappings, t.insertMapping? (some id) category = some { t with mappings } ∧
      ∀ m ∈ mappings, m.feed ∈ ids ++ [id] := by
  cases category with
  | none => exact ⟨t.mappings, rfl, fun m hm => List.mem_append_left _ (known m hm)⟩
  | some c =>
    have fresh : (⟨id, c⟩ : Mapping) ∉ t.mappings := fun old => new (known _ old)
    refine ⟨t.mappings ++ [⟨id, c⟩], by rw [Tables.insertMapping?, if_neg fresh], fun m hm => ?_⟩
    rcases List.mem_append.1 hm with old | new
    · exact List.mem_append_left _ (known m old)
    · obtain rfl := List.mem_singleton.1 new
      exact List.mem_append_right _ List.mem_cons_self

theorem insertFeed?_ofFeed {t : Tables} {stored : List Feed} {f : Feed}
    (rows : t.feeds = stored.map .ofFeed) (id : f.id ∉ stored.map (·.id))
    (url : ∀ u, f.url = some u → u ∉ stored.filterMap (·.url))
    (known : ∀ m ∈ t.mappings, m.feed ∈ stored.map (·.id)) (category : Option Text) :
    ∃ mappings, t.insertFeed? (.ofFeed f) category =
        some { t with feeds := (stored ++ [f]).map .ofFeed, mappings } ∧
      ∀ m ∈ mappings, m.feed ∈ (stored ++ [f]).map (·.id) := by
  have fresh : (t.feeds.any fun r => sameText (some f.id) r.id || sameText f.url r.url) =
      false := by
    rw [rows, List.any_map, List.any_eq_false]
    intro g hg same
    rcases Bool.or_eq_true_iff.1 same with same | same
    · exact id (List.mem_map.2 ⟨g, hg, sameText_some.1 same⟩)
    · obtain ⟨u, hf, hg'⟩ := sameText_iff.1 same
      exact url u hf (List.mem_filterMap.2 ⟨g, hg, hg'⟩)
  obtain ⟨mappings, inserted, kept⟩ := @insertMapping?_of_new
    { t with feeds := t.feeds ++ [.ofFeed f] } _ _ id known category
  refine ⟨mappings, ?_, by rwa [List.map_append]⟩
  rw [List.map_append, ← rows]
  simp only [Tables.insertFeed?, NewFeed.ofFeed, fresh]
  exact inserted

/-- Feeds that can be told apart are stored one after the other. -/
theorem tables_foldl_addFeed {feeds : List Feed} (ids : (feeds.map (·.id)).Nodup)
    (urls : (feeds.filterMap (·.url)).Nodup) (category : Feed → Option Text) :
    ∃ mappings,
      (feeds.foldl (fun s f => (s.addFeed (.ofFeed f) (category f)).2) Store.empty).tables =
        { Tables.empty with feeds := feeds.map .ofFeed, mappings } := by
  suffices h : ∃ mappings,
      (feeds.foldl (fun s f => (s.addFeed (.ofFeed f) (category f)).2) Store.empty).tables =
        { Tables.empty with feeds := feeds.map .ofFeed, mappings } ∧
      ∀ m ∈ mappings, m.feed ∈ feeds.map (·.id) by
    obtain ⟨mappings, tables, -⟩ := h
    exact ⟨mappings, tables⟩
  -- a mapping is one of a feed stored before, so that it does not stand in the way of a new one
  refine @foldl_prefix_induction _ _ _ (fun stored (s : Store) => ∃ mappings,
    s.tables = { Tables.empty with feeds := stored.map .ofFeed, mappings } ∧
      ∀ m ∈ mappings, m.feed ∈ stored.map (·.id)) feeds .empty ⟨[], rfl, by simp⟩ ?_
  rintro stored f after s split ⟨mappings, tables, known⟩
  have url : ∀ u, f.url = some u → u ∉ stored.filterMap (·.url) := by
    intro u hu old
    rw [split, List.filterMap_append, List.filterMap_cons_some hu, List.nodup_append] at urls
    exact urls.2.2 _ old _ List.mem_cons_self rfl
  obtain ⟨mappings', inserted, known'⟩ := @insertFeed?_ofFeed s.tables stored f (by rw [tables])
    (not_mem_map_of_nodup ids split) url (by rwa [tables]) (category f)
  refine ⟨mappings', ?_, known'⟩
  rw [addFeed, inserted, tables]
  rfl

/-- Tags that can be told apart are stored one after the other. -/
theorem tables_foldl_addTag {tags : List Tag} (ids : (tags.map (·.id)).Nodup)
    (labels : (tags.map (·.label)).Nodup) {s : Store} (none_stored : s.tables.tags = []) :
    (tags.foldl (fun s t => (s.addTag (.ofTag t)).2) s).tables =
      { s.tables with tags := tags.map .ofTag } := by
  refine @foldl_prefix_induction _ _ _ (fun stored (u : Store) =>
    u.tables = { s.tables with tags := stored.map .ofTag }) _ _ ?_ ?_
  · rw [List.map_nil, ← none_stored]
  · intro stored t after u split tables
    have fresh : (u.tables.tags.any fun r => sameText (some t.id) r.id || r.label = t.label) =
        false := by
      rw [tables, List.any_map, List.any_eq_false]
      intro g hg same
      rcases Bool.or_eq_true_iff.1 same with same | same
      · exact not_mem_map_of_nodup ids split (List.mem_map.2 ⟨g, hg, sameText_some.1 same⟩)
      · exact not_mem_map_of_nodup labels split (List.mem_map.2 ⟨g, hg, of_decide_eq_true same⟩)
    have inserted : u.tables.insertTag? (.ofTag t) =
        some { u.tables with tags := u.tables.tags ++ [.ofTag t] } := by
      simp only [Tables.insertTag?, NewTag.ofTag, fresh]
      rfl
    rw [addTag, inserted, List.map_append, tables]
    rfl

/-- Taggings that are not the same are stored one after the other. -/
theorem tables_foldl_tagArticle {taggings : List Tagging} (pairs : taggings.Nodup) {s : Store}
    (none_stored : s.tables.taggings = []) :
    (taggings.foldl (fun s t => (s.tagArticle t.article t.tag).2) s).tables =
      { s.tables with taggings := taggings } := by
  refine @foldl_prefix_induction _ _ _ (fun stored (u : Store) =>
    u.tables = { s.tables with taggings := stored }) _ _ ?_ ?_
  · rw [← none_stored]
  · intro stored t after u split tables
    have fresh : t ∉ u.tables.taggings := by
      rw [tables]
      rw [split, List.nodup_append] at pairs
      exact fun old => pairs.2.2 _ old _ List.mem_cons_self rfl
    simp only [tagArticle, if_neg fresh]
    rw [saving, tables]

/-- The rows of a store that has been filled with records. -/
theorem tables_fill (r : Records) :
    ∃ mappings, r.store.tables =
      ⟨r.feeds.map .ofFeed, mappings, r.articles.map .ofArticle, r.tags.map .ofTag, r.taggings,
        none⟩ := by
  obtain ⟨mappings, feeds⟩ := tables_foldl_addFeed r.feed_ids r.feed_urls
    fun f => (r.mappings.find? (·.feed = f.id)).map (·.category)
  refine ⟨mappings, ?_⟩
  simp only [Records.store, fill]
  generalize List.foldl _ Store.empty r.feeds = filed at feeds ⊢
  have inserted := @insertArticles_ofArticle filed.tables [] r.articles (by rw [feeds]; rfl)
    r.article_ids r.article_times
  have articles : (filed.addArticles (r.articles.map .ofArticle)).2.tables =
      { Tables.empty with
        feeds := r.feeds.map .ofFeed, mappings, articles := r.articles.map .ofArticle } := by
    rw [addArticles, inserted]
    simp only [saving, feeds]
    rfl
  generalize (filed.addArticles (r.articles.map .ofArticle)).2 = listed at articles ⊢
  have tags := tables_foldl_addTag r.tag_ids r.tag_labels (s := listed) (by rw [articles]; rfl)
  rw [tables_foldl_tagArticle r.tagging_pairs (by rw [tags, articles]; rfl), tags, articles]
  rfl

end Store

/-! ### Looking records up -/

theorem find?_eq_of_perm {α : Type} {l m : List α} {id : α → Text} (perm : l.Perm m)
    (ids : (m.map id).Nodup) (key : Text) :
    l.reverse.find? (id · = key) = m.reverse.find? (id · = key) := by
  have perm : l.reverse.Perm m.reverse := (l.reverse_perm.trans perm).trans m.reverse_perm.symm
  refine List.find?_eq_find?_of_perm perm ?_
  rintro a ⟨ha, ida⟩ b ⟨hb, idb⟩
  have mem {c : α} (hc : c ∈ l.reverse) : c ∈ m := List.mem_reverse.1 (perm.mem_iff.1 hc)
  refine List.inj_on_of_nodup_map ids (mem ha) (mem hb) ?_
  exact (of_decide_eq_true ida).trans (of_decide_eq_true idb).symm

/-- A store that has been filled looks articles up like the records it has been filled with. -/
theorem Store.library_agrees (r : Records) : r.library.Agrees r.store.library := by
  obtain ⟨mappings, tables⟩ := tables_fill r
  have feeds : r.store.library.feeds.Perm r.feeds := by
    have perm := List.mergeSort_perm (r.feeds.map FeedRow.ofFeed) fun a b => a.compare b != .gt
    have back : (r.feeds.map FeedRow.ofFeed).filterMap (·.feed?) = r.feeds := by
      rw [List.filterMap_map]
      exact List.filterMap_some
    simp only [Store.library, Store.feeds, tables]
    exact (perm.filterMap _).trans (.of_eq back)
  have tags : r.store.library.tags.Perm r.tags := by
    have perm := List.mergeSort_perm (r.tags.map TagRow.ofTag) fun a b => a.compare b != .gt
    have back : (r.tags.map TagRow.ofTag).filterMap (·.tag?) = r.tags := by
      rw [List.filterMap_map]
      exact List.filterMap_some
    simp only [Store.library, Store.tags, tables]
    exact (perm.filterMap _).trans (.of_eq back)
  have taggings : r.store.library.taggings.Perm r.taggings := by
    simp only [Store.library, Store.taggings, tables]
    exact List.mergeSort_perm _ _
  refine ⟨?_, ?_, ?_⟩
  · exact find?_eq_of_perm feeds r.feed_ids
  · exact find?_eq_of_perm tags r.tag_ids
  · intro article
    exact (taggings.filter _).map _

/-- Articles with identifiers of their own stand in memory as they were given. -/
theorem Shelf.articles_ofList {articles : List Article} (ids : (articles.map (·.id)).Nodup)
    (library : Library) : (Shelf.ofList articles library).articles = articles := by
  rw [ofList]
  refine @foldl_prefix_induction _ _ _ (fun before (put : List Article) => put = before) articles []
    rfl ?_
  rintro before a after s split rfl
  have fresh : ¬ s.any (·.id = a.id) := by
    intro old
    obtain ⟨b, hb, same⟩ := List.any_eq_true.1 old
    exact not_mem_map_of_nodup ids split (List.mem_map.2 ⟨b, hb, of_decide_eq_true same⟩)
  rw [put, if_neg fresh]

end FeedReader
