import FeedReader.ArticleList
import FeedReader.ArticleList.Source

/-!
# Loading the article list

* `ArticleView`: the articles of a loaded list and what they are looked up in;
* `ArticleList.load?`: the source evaluates the filter, and what remains of the queries is evaluated
  here;
* `ArticleView.resolve`: the articles of the list that a scope means;
* `ArticleView.setScopeRead`.
-/

namespace FeedReader

/-- The articles of a loaded list, and what they are looked up in. -/
structure ArticleView where
  articles : List Article
  library : Library

/-- The view before anything has been loaded. -/
def ArticleView.empty : ArticleView := ⟨[], .empty⟩

/-- The articles that the list shows, in its order; nothing if the source cannot evaluate the
filter. -/
def ArticleList.load? {σ : Type} [ArticleSource σ] (l : ArticleList) (source : σ)
    (lastSync : Moment) : Option ArticleView :=
  (ArticleSource.articles? source l.effectiveFilter).map fun articles =>
    let library := ArticleSource.library source
    let residual := (l.selected.map SplitQuery.residual).getD Query.empty
    let left := residual.select library lastSync articles
    let left := (l.appliedFilter.getD Query.empty).select library lastSync left
    ⟨l.effectiveOrder.sort library left, library⟩

namespace ArticleView

/-- The identifiers of the listed articles that a scope means; `current` is the selected article. -/
def resolve (v : ArticleView) (scope : ActionScope) (current : Option Text) (lastSync : Moment) :
    List Text :=
  match scope with
  | .current => current.toList
  | .all => v.articles.map (·.id)
  | .query q => (q.select v.library lastSync v.articles).map (·.id)

/-- Sets the read state of the articles that a scope means. -/
def setScopeRead {σ : Type} [ArticleSource σ] (v : ArticleView) (source : σ) (scope : ActionScope)
    (state : ReadState) (current : Option Text) (lastSync : Moment) : List Text × σ :=
  ArticleSource.setRead source (v.resolve scope current lastSync) state

end ArticleView

end FeedReader
