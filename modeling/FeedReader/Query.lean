import FeedReader.Query.Clause
import FeedReader.SortOrder

/-!
# Queries

* `Query`: clauses that all have to hold, and perhaps a sort order, with the text they were read
  from;
* `Query.holds`, `Query.select`;
* `SplitQuery`: a filter for the store and the query that remains.
-/

namespace FeedReader

/-- Clauses that all have to hold, and perhaps a sort order. -/
structure Query where
  text : Text
  clauses : List Query.Clause
  sort : Option SortOrder
  deriving DecidableEq

namespace Query

/-- The query that every article meets. -/
def empty : Query := ⟨[], [], none⟩

/-- Whether a query has no clauses. -/
def isEmpty (q : Query) : Bool := q.clauses.isEmpty

/-- Whether an article meets all clauses. -/
def holds (q : Query) (s : Subject) : Bool := q.clauses.all (·.holds s)

/-- The articles that meet a query, in their order. -/
def select (q : Query) (l : Library) (lastSync : Moment) (articles : List Article) : List Article :=
  articles.filter fun a => q.holds (Subject.ofArticle l lastSync a)

end Query

/-- A query taken apart: a filter for the store and the query that remains. -/
structure SplitQuery where
  filter : ArticleFilter
  residual : Query
  deriving DecidableEq

namespace SplitQuery

/-- Whether there is something left that the store cannot evaluate. -/
def isAugmented (q : SplitQuery) : Bool := !q.residual.isEmpty

/-- Whether the query has any condition. -/
def definesScope (q : SplitQuery) : Bool := q.isAugmented || !q.filter.isEmpty

end SplitQuery

end FeedReader
