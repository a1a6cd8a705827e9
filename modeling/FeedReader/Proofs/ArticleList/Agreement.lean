import FeedReader.Proofs.ArticleList.Session

/-!
# Lists from sources that agree

Articles are looked at through their content and through the records they are looked up in. The
order of these records does not matter, and neither does the calendar that a time is given on.

* `Library.Agrees`: libraries in which the same is found;
* `Query.select_map_onUtc`, `SortOrder.sort_map_onUtc`: queries and sort orders on such libraries;
* `ArticleView.Alike`: loaded lists that show the same;
* `ArticleList.load?_alike`, `ArticleView.Alike.resolve`: loading such lists, and their scopes.
-/

namespace FeedReader

/-! ### Libraries -/

/-- Whether the same feeds and tags are found in two libraries. -/
structure Library.Agrees (l m : Library) : Prop where
  feed : ∀ id, m.feed? id = l.feed? id
  tag : ∀ id, m.tag? id = l.tag? id
  tagIds : ∀ article, (m.tagIds article).Perm (l.tagIds article)

theorem Library.Agrees.tagLabels {l m : Library} (h : l.Agrees m) (article : Text) :
    (m.tagLabels article).Perm (l.tagLabels article) := by
  have found : (fun id => (m.tag? id).map (·.label)) = fun id => (l.tag? id).map (·.label) := by
    funext id
    rw [h.tag]
  rw [Library.tagLabels, found]
  exact (h.tagIds article).filterMap _

/-! ### Queries -/

namespace Query

variable {l m : Library} {a : Article} {lastSync : Moment}

theorem Field.content?_onUtc (h : l.Agrees m) (f : Field) :
    f.content? (.ofArticle m lastSync a.onUtc) = f.content? (.ofArticle l lastSync a) := by
  have feed : (Subject.ofArticle m lastSync a.onUtc).feed =
      (Subject.ofArticle l lastSync a).feed := h.feed a.feed
  cases f <;> simp only [Field.content?, feed] <;> rfl

theorem bound_holds_onUtc (ha : a.HasUtc) (b : Bound) (time : Moment) :
    b.holds a.onUtc time = b.holds a time := by
  cases b <;> simp only [Bound.holds, Moment.isBefore, Article.date_onUtc ha,
    Article.synced_onUtc ha]

theorem Atom.holds_onUtc (h : l.Agrees m) (ha : a.HasUtc) (atom : Atom) :
    atom.holds (.ofArticle m lastSync a.onUtc) = atom.holds (.ofArticle l lastSync a) := by
  have tags : (Subject.ofArticle m lastSync a.onUtc).tags.Perm
      (Subject.ofArticle l lastSync a).tags := h.tagLabels a.id
  cases atom with
  | always => rfl
  | read state => rfl
  | mark state => rfl
  | tagged => exact congrArg (!·) tags.isEmpty_eq
  | lastSync =>
    rw [Atom.holds, Moment.isBefore, Subject.ofArticle, Article.synced_onUtc ha]
    rfl
  | field f term =>
    rw [Atom.holds, Atom.holds, Field.content?_onUtc h]
  | tag labels =>
    refine congrArg labels.any (funext fun label => ?_)
    exact tags.contains_eq
  | bound b time => exact bound_holds_onUtc ha b time

theorem holds_onUtc (h : l.Agrees m) (ha : a.HasUtc) (q : Query) :
    q.holds (.ofArticle m lastSync a.onUtc) = q.holds (.ofArticle l lastSync a) := by
  refine congrArg q.clauses.all (funext fun c => ?_)
  rw [Clause.holds, Clause.holds, c.atom.holds_onUtc h ha]

/-- A query finds the same articles with times on any calendar and records in any order. -/
theorem select_map_onUtc (h : l.Agrees m) (q : Query) {articles : List Article}
    (utc : ∀ a ∈ articles, a.HasUtc) :
    q.select m lastSync (articles.map (·.onUtc)) =
      (q.select l lastSync articles).map (·.onUtc) := by
  rw [select, select, List.filter_map]
  refine congrArg _ (List.filter_congr fun a ha => ?_)
  exact holds_onUtc h (utc a ha) q

end Query

/-! ### Sort orders -/

theorem SortKey.compare_onUtc {l m : Library} (h : l.Agrees m) {a b : Article} (ha : a.HasUtc)
    (hb : b.HasUtc) (k : SortKey) : k.compare m a.onUtc b.onUtc = k.compare l a b := by
  refine congrArg k.direction.apply ?_
  cases k.field with
  | feed =>
    rw [compareField, h.feed, h.feed]
    rfl
  | date => rw [compareField, Article.date_onUtc ha, Article.date_onUtc hb, compareField]
  | synced => rw [compareField, Article.synced_onUtc ha, Article.synced_onUtc hb, compareField]
  | title => rfl
  | author => rfl

theorem SortOrder.compare_onUtc {l m : Library} (h : l.Agrees m) {a b : Article} (ha : a.HasUtc)
    (hb : b.HasUtc) (o : SortOrder) : o.compare m a.onUtc b.onUtc = o.compare l a b := by
  rw [compare, compare]
  induction o.keys with
  | nil => rfl
  | cons k ks ih => rw [compareBy, compareBy, k.compare_onUtc h ha hb, ih]

/-- A sort order puts articles alike with times on any calendar and records in any order. -/
theorem SortOrder.sort_map_onUtc {l m : Library} (h : l.Agrees m) (o : SortOrder)
    {articles : List Article} (utc : ∀ a ∈ articles, a.HasUtc) :
    o.sort m (articles.map (·.onUtc)) = (o.sort l articles).map (·.onUtc) := by
  refine (List.map_mergeSort fun a ha b hb => ?_).symm
  rw [o.compare_onUtc h (utc a ha) (utc b hb)]

/-! ### Loaded lists -/

namespace ArticleView

/-- Whether two loaded lists show the same articles, in the same order if the order counts; the
second one has its times in UTC. -/
structure Alike (ordered : Bool) (v w : ArticleView) : Prop where
  library : v.library.Agrees w.library
  articles : ∃ listed : List Article, w.articles = listed.map (·.onUtc) ∧
    FeedReader.Alike ordered v.articles listed ∧ ∀ a ∈ listed, a.HasUtc

variable {ordered : Bool} {v w : ArticleView}

theorem alike_empty : Alike ordered empty empty where
  library := ⟨fun _ => rfl, fun _ => rfl, fun _ => .refl _⟩
  articles := ⟨[], rfl, .of_eq rfl, by simp⟩

theorem Alike.content (h : Alike ordered v w) :
    FeedReader.Alike ordered (v.articles.map (·.content)) (w.articles.map (·.content)) := by
  obtain ⟨listed, shown, alike, utc⟩ := h.articles
  have content : w.articles.map (·.content) = listed.map (·.content) := by
    rw [shown, List.map_map]
    exact List.map_congr_left fun a ha => Article.content_onUtc (utc a ha)
  rw [content]
  exact alike.map _

/-- A scope means the same articles on two lists that show the same. -/
theorem Alike.resolve (h : Alike ordered v w) (scope : ActionScope) (current : Option Text)
    (lastSync : Moment) :
    FeedReader.Alike ordered (v.resolve scope current lastSync)
      (w.resolve scope current lastSync) := by
  obtain ⟨listed, shown, alike, utc⟩ := h.articles
  have ids (articles : List Article) : (articles.map (·.onUtc)).map (·.id) = articles.map (·.id) :=
    List.map_map
  cases scope with
  | current => exact .of_eq rfl
  | all =>
    rw [ArticleView.resolve, ArticleView.resolve, shown, ids]
    exact alike.map _
  | query q =>
    rw [ArticleView.resolve, ArticleView.resolve, shown,
      Query.select_map_onUtc h.library q utc, ids]
    exact (alike.filter _).map _

end ArticleView

/-- Sources that give the same articles for the filter of a list load it alike. -/
theorem ArticleList.load?_alike {σ τ : Type} [ArticleSource σ] [ArticleSource τ] {ordered : Bool}
    {s : σ} {t : τ} {list : ArticleList} {given listed : List Article}
    (found : ArticleSource.articles? s list.effectiveFilter = some given)
    (stored : ArticleSource.articles? t list.effectiveFilter = some (listed.map (·.onUtc)))
    (alike : Alike ordered given listed) (utc : ∀ a ∈ listed, a.HasUtc)
    (library : (ArticleSource.library s).Agrees (ArticleSource.library t)) (lastSync : Moment) :
    ∃ v w, list.load? s lastSync = some v ∧ list.load? t lastSync = some w ∧
      v.Alike ordered w := by
  have subset {q : Query} {articles : List Article} (h : ∀ a ∈ articles, a.HasUtc) :
      ∀ a ∈ q.select (ArticleSource.library s) lastSync articles, a.HasUtc :=
    fun a ha => h a (List.mem_filter.1 ha).1
  -- the filters that remain after the one that the source has evaluated
  let residual := (list.selected.map SplitQuery.residual).getD Query.empty
  let own := list.appliedFilter.getD Query.empty
  let left (given : List Article) : List Article :=
    own.select (ArticleSource.library s) lastSync
      (residual.select (ArticleSource.library s) lastSync given)
  refine ⟨_, _, by rw [load?, found, Option.map_some], by rw [load?, stored, Option.map_some],
    library, list.effectiveOrder.sort (ArticleSource.library s) (left listed), ?_, ?_, ?_⟩
  · dsimp only
    rw [Query.select_map_onUtc library _ utc, Query.select_map_onUtc library _ (subset utc),
      SortOrder.sort_map_onUtc library _ (subset (subset utc))]
  · exact ((alike.filter _).filter _).mergeSort _
  · intro a ha
    exact subset (subset utc) a (List.mem_mergeSort.1 ha)

end FeedReader
