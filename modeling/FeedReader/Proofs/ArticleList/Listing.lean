import FeedReader.Proofs.ArticleList.Session
import FeedReader.Proofs.Query.Pushdown
import FeedReader.Proofs.Result
import FeedReader.Proofs.SortOrder.Stable

/-!
# What the article list shows

Of the articles in memory a loaded list shows those that the state of the list asks for, in the
order of the state.

* `ArticleList.asksFor`: what the state asks for, told from the selected query read as it is;
* `ArticleList.keeps`, `ArticleList.load?_shelf`: what loading leaves of the articles;
* `ArticleList.keeps_of_none`, `ArticleList.keeps_of_read`: it leaves what the state asks for;
* `Session.Shows`, `Session.load_shows`.
-/

namespace FeedReader

/-! ### What the state asks for -/

/-- Whether a scope shows an article. -/
def ArticleScope.shows (a : Article) : ArticleScope → Bool
  | all => true
  | unread => a.read = .unread
  | marked => a.mark = .marked

theorem ArticleScope.holds_filter (scope : ArticleScope) (a : Article) :
    scope.filter.holds a = scope.shows a := by
  cases scope <;> simp [filter, shows, ArticleFilter.holds]

namespace ArticleList

/-- Whether the state of a list asks for an article. The selected query, read as it is, has the say
if it has a clause, and the scope otherwise; of the clauses about one state the last one counts. The
user's own query has its say if it is applied. -/
def asksFor (l : ArticleList) (plain : Option Query) (x : Query.Subject) : Bool :=
  (match plain with
    | some q =>
      if q.clauses = [] then l.scope.shows x.article else (Query.decisive q.clauses).all (·.holds x)
    | none => l.scope.shows x.article) &&
  (!l.filtering || l.ownFilter.all fun q => q.clauses.all (·.holds x))

/-- Whether loading the list keeps an article: the filter lets it pass, and what is left of the
selected query and the user's own query hold. -/
def keeps (l : ArticleList) (x : Query.Subject) : Bool :=
  l.effectiveFilter.holds x.article &&
    (((l.selected.map SplitQuery.residual).getD Query.empty).holds x &&
      (l.appliedFilter.getD Query.empty).holds x)

theorem load?_shelf (l : ArticleList) (s : Shelf) (lastSync : Moment) :
    l.load? s lastSync =
      some ⟨l.effectiveOrder.sort s.library
        (s.articles.filter fun a => l.keeps (.ofArticle s.library lastSync a)), s.library⟩ := by
  have kept (f : ArticleFilter) (q own : Query) :
      own.select s.library lastSync (q.select s.library lastSync (s.select f)) =
        s.articles.filter fun a => f.holds a && (q.holds (.ofArticle s.library lastSync a) &&
          own.holds (.ofArticle s.library lastSync a)) := by
    simp only [Query.select, Shelf.select, List.filter_filter, Bool.and_comm, Bool.and_assoc]
  show some (ArticleView.mk (l.effectiveOrder.sort s.library _) s.library) = _
  rw [show ArticleSource.library s = s.library from rfl, kept]
  rfl

theorem holds_appliedFilter (l : ArticleList) (x : Query.Subject) :
    (l.appliedFilter.getD Query.empty).holds x =
      (!l.filtering || l.ownFilter.all fun q => q.clauses.all (·.holds x)) := by
  unfold appliedFilter
  cases l.filtering with
  | false => rfl
  | true =>
    cases l.ownFilter with
    | none => rfl
    | some q => simp [Query.holds]

theorem keeps_of_none {l : ArticleList} (h : l.selected = none) (x : Query.Subject) :
    l.keeps x = l.asksFor none x := by
  have all : Query.empty.holds x = true := rfl
  rw [keeps, holds_appliedFilter, asksFor, effectiveFilter, h]
  simp [ArticleScope.holds_filter, all]

theorem keeps_of_read {l : ArticleList} {t : Text} {now : Moment} {split : SplitQuery}
    (read : SplitQuery.read t now = .ok split) (h : l.selected = some split) :
    ∃ q, Query.read t now = .ok q ∧ ∀ x, l.keeps x = l.asksFor (some q) x := by
  obtain ⟨q, plain, scope, nothing, meaning⟩ := SplitQuery.exists_of_read read
  refine ⟨q, plain, fun x => ?_⟩
  rw [keeps, holds_appliedFilter, asksFor, effectiveFilter, h]
  by_cases none : q.clauses = []
  · -- nothing is left of the query, and the scope counts
    have all : split.residual.holds x = true := by simp [Query.holds, nothing none]
    have unsettled : ¬ split.definesScope = true := fun settled => scope.1 settled none
    simp [unsettled, none, all, ArticleScope.holds_filter]
  · simp only [if_pos (scope.2 none), if_neg none, Option.map_some, Option.getD_some]
    rw [← Bool.and_assoc, meaning]

end ArticleList

/-! ### Loading the list -/

namespace Session

/-- Whether loading the list of a session shows the articles that are wanted, in the order of the
list, and changes neither the list nor the source. -/
def Shows (s : Session Shelf) (lastSync : Moment) (wanted : Query.Subject → Bool) : Prop :=
  ∃ listed,
    s.load lastSync = (.listed (some listed),
      { s with views := s.views ++ [⟨listed, s.source.library⟩] }) ∧
    IsStableSort (s.list.effectiveOrder.compare s.source.library)
      (s.source.articles.filter fun a => wanted (.ofArticle s.source.library lastSync a)) listed

theorem shows_keeps (s : Session Shelf) (lastSync : Moment) : s.Shows lastSync s.list.keeps := by
  refine ⟨_, ?_, SortOrder.isStableSort_sort ..⟩
  rw [load, ArticleList.load?_shelf]

/-- Loading shows the articles that the state of the list asks for. -/
theorem load_shows (s : Session Shelf) (lastSync : Moment) :
    (s.list.selected = none → s.Shows lastSync (s.list.asksFor none)) ∧
    ∀ t now split, SplitQuery.read t now = .ok split → s.list.selected = some split →
      ∃ q, Query.read t now = .ok q ∧ s.Shows lastSync (s.list.asksFor (some q)) := by
  have shown := s.shows_keeps lastSync
  constructor
  · intro h
    rwa [← funext (ArticleList.keeps_of_none h)]
  · intro t now split read h
    obtain ⟨q, plain, same⟩ := ArticleList.keeps_of_read read h
    refine ⟨q, plain, ?_⟩
    rwa [← funext same]

/-- An unread article and a marked one, in a list in the scope of marked articles. -/
def unreadOfTwo : Session Shelf where
  source :=
    { articles :=
        [⟨"b", "f", .ofUtc ⟨20, by decide⟩, .ofUtc ⟨10, by decide⟩, none, none, none, none, .unread,
            .unmarked⟩,
          ⟨"a", "f", .ofUtc ⟨30, by decide⟩, .ofUtc ⟨10, by decide⟩, none, none, none, none, .read,
            .marked⟩]
      library := .empty }
  list :=
    { scope := .marked
      selected := some ⟨{ read := some .unread }, ⟨"unread sort:\"title\"", [],
        some ⟨[⟨.title, .ascending⟩], by decide⟩⟩⟩ }
  views := []

/-- The selected query has a clause, so that the scope does not count. -/
theorem load_shows_unreadOfTwo :
    ∃ q, Query.read "unread sort:\"title\"" (.ofUtc ⟨0, by decide⟩) = .ok q ∧
      unreadOfTwo.Shows (.ofUtc ⟨0, by decide⟩) (unreadOfTwo.list.asksFor (some q)) := by
  refine (load_shows unreadOfTwo _).2 _ _ _ ?_ rfl
  decide +kernel

end Session

end FeedReader
