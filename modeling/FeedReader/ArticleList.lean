import FeedReader.Command
import FeedReader.Query.Reader

/-!
# The state of the article list

What the list shows is settled by the query selected in the feed list, by a scope that counts if
that query sets no condition, by a query of the user's own, and by sort orders of which the most
specific one wins.

* `ArticleList`;
* `ArticleList.effectiveFilter`, `effectiveScope`, `effectiveOrder`, `usesDefaultOrder`: what the
  state comes to;
* `ArticleList.select`, and `ArticleList.run`, which executes a command.
-/

namespace FeedReader

/-- What the article list shows, and in which order. -/
structure ArticleList where
  defaultOrder : SortOrder := .empty
  scope : ArticleScope := .all
  selected : Option SplitQuery := none
  ownFilter : Option Query := none
  ownOrder : Option SortOrder := none
  reversed : Bool := false
  filtering : Bool := false
  deriving DecidableEq

namespace ArticleList

/-! ### What the state comes to -/

/-- Whether the selected query settles which articles are shown. -/
def selectionDefinesScope (l : ArticleList) : Bool := l.selected.any (·.definesScope)

/-- The filter that the store is asked for. -/
def effectiveFilter (l : ArticleList) : ArticleFilter :=
  match l.selected with
  | some q => if q.definesScope then q.filter else l.scope.filter
  | none => l.scope.filter

/-- The scope that counts, if one does. -/
def effectiveScope (l : ArticleList) : Option ArticleScope :=
  if l.selectionDefinesScope then none else some l.scope

/-- Whether nothing but the user's own filter may have changed the order. -/
def usesDefaultOrder (l : ArticleList) : Bool :=
  l.ownOrder.isNone && (l.selected.bind (·.residual.sort)).isNone && !l.reversed

/-- The order before it may be reversed: the user's own one, else the one of the user's own filter,
else the one of the selected query, else the default. -/
def chosenOrder (l : ArticleList) : SortOrder :=
  (l.ownOrder.or ((l.ownFilter.bind (·.sort)).or (l.selected.bind (·.residual.sort)))).getD
    l.defaultOrder

/-- The order in which the articles are listed. -/
def effectiveOrder (l : ArticleList) : SortOrder := l.chosenOrder.reverseIf l.reversed

/-- The user's own filter, if it is applied. -/
def appliedFilter (l : ArticleList) : Option Query := if l.filtering then l.ownFilter else none

/-! ### Changing the state -/

/-- The state after a query has been selected; the user's own filter is no longer applied. -/
def select (l : ArticleList) (q : SplitQuery) : ArticleList :=
  { l with selected := some q, filtering := false }

/-- The state after a command that is meant for the list, or nothing if it does not concern it. -/
def execute (l : ArticleList) (now : Moment) : Command → Query.Result (Option ArticleList)
  | .sort o => .ok (some { l with ownOrder := some o })
  | .plain .reverseSort _ => .ok (some { l with reversed := !l.reversed })
  | .plain .clearSort _ => .ok (some { l with ownOrder := none, reversed := false })
  | .plain .applyFilter _ => .ok (some { l with filtering := l.ownFilter.isSome })
  | .plain .clearFilter _ => .ok (some { l with ownFilter := none, filtering := false })
  | .onQuery .setFilter _ q => .ok (some { l with ownFilter := some q, filtering := true })
  | .onQuery .query _ q => (SplitQuery.read q.text now).map fun q => some (l.select q)
  | .showArticles target scope =>
    .ok (if target = .feeds then none else some { l with scope := scope })
  | _ => .ok none

/-- The state after a command, or nothing if the command does not concern the list. -/
def run (l : ArticleList) (now : Moment) (c : Command) : Query.Result (Option ArticleList) :=
  match c.unwrapIn .articles with
  | some c => l.execute now c
  | none => .ok none

end ArticleList

end FeedReader
