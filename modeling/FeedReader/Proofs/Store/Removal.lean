import FeedReader.Proofs.Store.References

/-!
# Removing a feed

A feed is removed in four steps: the taggings of its articles, which are looked up while the
articles are still there, then its articles, its mappings, and the feed itself. What is listed
afterwards is what was listed before without these rows, in the same order.

* `Deletion`, `Tables.delete`: the four steps; `removeFeed_eq_foldl`;
* `Tables.HasArticleOf`: the articles that go with a feed;
* the comparisons that lists are ordered by are transitive;
* `removeFeed_cascades`.
-/

namespace FeedReader

namespace Store

/-! ### Four deletions -/

/-- The rows that are deleted with a feed. -/
inductive Deletion
  | taggings
  | articles
  | mappings
  | feeds
  deriving DecidableEq

/-- Whether an article of a feed is stored under an identifier. -/
def Tables.HasArticleOf (t : Tables) (feed article : Text) : Prop :=
  ∃ r ∈ t.articles, r.feed = feed ∧ r.id = some article

instance (t : Tables) (feed article : Text) : Decidable (t.HasArticleOf feed article) :=
  inferInstanceAs (Decidable (∃ r ∈ t.articles, r.feed = feed ∧ r.id = some article))

/-- Deletes the rows of one kind that belong to a feed. Taggings belong to it through its articles,
as they are at that time. -/
def Tables.delete (feed : Text) (t : Tables) : Deletion → Tables
  | .taggings => { t with taggings := t.taggings.filter fun g => ¬ t.HasArticleOf feed g.article }
  | .articles => { t with articles := t.articles.filter (·.feed ≠ feed) }
  | .mappings => { t with mappings := t.mappings.filter (·.feed ≠ feed) }
  | .feeds => { t with feeds := t.feeds.filter (·.id ≠ some feed) }

variable {t : Tables} {s : Store} {id : Text}

/-- A feed is removed by the four deletions, where that of the taggings comes before that of the
articles. -/
theorem removeFeed_eq_foldl (t : Tables) (id : Text) :
    t.removeFeed id =
      [Deletion.taggings, .articles, .mappings, .feeds].foldl (Tables.delete id) t := by
  have taggings (g : Tagging) : (!t.articles.any fun r => r.feed = id && r.id = some g.article) =
      decide (¬ t.HasArticleOf id g.article) := by
    rw [Bool.eq_iff_iff]
    simp [Tables.HasArticleOf]
  simp only [Tables.removeFeed, List.foldl, Tables.delete, taggings]
  simp

/-! ### The orders of lists -/

instance : Std.TransCmp FeedRow.compare := transCmp_on Text.compare fun r : FeedRow => r.label

instance : Std.TransCmp Mapping.compare :=
  have : Std.TransCmp fun a b : Mapping => Text.compare a.feed b.feed :=
    transCmp_on Text.compare fun m : Mapping => m.feed
  have : Std.TransCmp fun a b : Mapping => Text.compare a.category b.category :=
    transCmp_on Text.compare fun m : Mapping => m.category
  inferInstanceAs (Std.TransCmp (compareLex _ _))

instance : Std.TransCmp ArticleRow.compare :=
  have : Std.TransCmp fun s t : Text => Text.compare t s := Std.TransCmp.opposite
  have : Std.TransCmp fun a b : ArticleRow => Text.compare b.date.stamp a.date.stamp :=
    transCmp_on (fun s t : Text => Text.compare t s) fun r : ArticleRow => r.date.stamp
  have : Std.TransCmp fun a b : ArticleRow => Text.compareOption a.id b.id :=
    transCmp_on Text.compareOption fun r : ArticleRow => r.id
  inferInstanceAs (Std.TransCmp (compareLex _ _))

instance : Std.TransCmp compareTaggings :=
  have : Std.TransCmp fun a b : Tagging => Text.compare a.article b.article :=
    transCmp_on Text.compare fun g : Tagging => g.article
  have : Std.TransCmp fun a b : Tagging => Text.compare a.tag b.tag :=
    transCmp_on Text.compare fun g : Tagging => g.tag
  inferInstanceAs (Std.TransCmp (compareLex _ _))

/-! ### What is left -/

/-- A filter lists the articles of the other feeds as before. -/
theorem articles?_of_filter {t : Store} {p : ArticleRow → Bool}
    (rows : t.tables.articles = s.tables.articles.filter p) (f : ArticleFilter) :
    t.articles? f = (s.articles? f).map (·.filter p) := by
  rw [Store.articles?, Store.articles?, Option.map_map]
  congr 1
  funext cs
  have read : (if f.read.isSome then t.tables.articles else t.tables.articles.reverse) =
      (if f.read.isSome then s.tables.articles else s.tables.articles.reverse).filter p := by
    split
    · exact rows
    · rw [rows, List.filter_reverse]
  simp only [Function.comp, read, List.filter_filter, ← filter_mergeSort, Bool.and_comm]

/-- A feed that is not stored is not removed, and nothing changes. A feed that is stored is removed
by the four deletions, with its articles, which are counted, with the taggings of these, and with
its mappings. All other rows stay, and are listed as before. -/
theorem removeFeed_cascades (s : Store) (id : Text) :
    (¬ s.tables.HasFeed id → s.removeFeed (some id) = (none, s)) ∧
      (s.tables.HasFeed id → ∃ t : Store,
        s.removeFeed (some id) = (some (s.tables.articles.countP (·.feed = id)), t) ∧
        t = saving ([Deletion.taggings, .articles, .mappings, .feeds].foldl (Tables.delete id)
          s.tables) ∧
        t.tables = { s.tables with
          feeds := s.tables.feeds.filter (·.id ≠ some id)
          mappings := s.tables.mappings.filter (·.feed ≠ id)
          articles := s.tables.articles.filter (·.feed ≠ id)
          taggings := s.tables.taggings.filter fun g => ¬ s.tables.HasArticleOf id g.article } ∧
        t.feeds = s.feeds.filter (·.id ≠ some id) ∧
        t.mappings = s.mappings.filter (·.feed ≠ id) ∧
        (∀ f, t.articles? f = (s.articles? f).map (·.filter (·.feed ≠ id))) ∧
        t.taggings = s.taggings.filter (fun g => ¬ s.tables.HasArticleOf id g.article) ∧
        t.tags = s.tags ∧ t.lastSync = s.lastSync) := by
  have stored : (s.tables.feeds.any fun r => r.id = some id) = true ↔ s.tables.HasFeed id := by
    simp [Tables.HasFeed]
  constructor
  · intro unknown
    simp only [Store.removeFeed, if_neg (stored.not.2 unknown)]
  · intro known
    let t := saving ([Deletion.taggings, .articles, .mappings, .feeds].foldl (Tables.delete id)
      s.tables)
    refine ⟨t, ?_, rfl, rfl, ?_, ?_, ?_, ?_, rfl, rfl⟩
    · simp only [Store.removeFeed, if_pos (stored.2 known), removeFeed_eq_foldl]
      rfl
    · exact filter_mergeSort _ _
    · exact filter_mergeSort _ _
    · exact articles?_of_filter rfl
    · exact filter_mergeSort _ _

/-- Two feeds with an article each, and taggings of both articles and of one that is not stored. -/
theorem removeFeed_cascades_tagged :
    let a : NewArticle := ⟨['a'], ['f'], .ofUtc ⟨0, by decide⟩, .ofUtc ⟨0, by decide⟩, none, none,
      none, none, .unread, .unmarked⟩
    let s := empty.run [.addFeed (.ofFeed ⟨['f'], ['F'], none, none⟩) (some ['c']),
      .addFeed (.ofFeed ⟨['g'], ['G'], none, none⟩) (some ['c']),
      .addArticles [a, { a with id := ['b'], feed := ['g'] }],
      .tagArticle (some ['x']) (some ['t']), .tagArticle (some ['a']) (some ['t']),
      .tagArticle (some ['b']) (some ['t'])]
    ¬ s.tables.HasFeed ['h'] ∧ s.removeFeed (some ['h']) = (none, s) ∧ s.tables.HasFeed ['f'] ∧
      ∃ t : Store, s.removeFeed (some ['f']) = (some 1, t) ∧
        t.tables.mappings = [⟨['g'], ['c']⟩] ∧
        t.tables.taggings = [⟨['x'], ['t']⟩, ⟨['b'], ['t']⟩] := by
  intro a s
  have unknown : ¬ s.tables.HasFeed ['h'] := by decide +kernel
  have known : s.tables.HasFeed ['f'] := by decide +kernel
  obtain ⟨-, removed⟩ := s.removeFeed_cascades ['f']
  obtain ⟨t, gone, -, tables, -⟩ := removed known
  refine ⟨unknown, (s.removeFeed_cascades ['h']).1 unknown, known, t, gone, ?_⟩
  rw [tables]
  decide +kernel

end Store

end FeedReader
