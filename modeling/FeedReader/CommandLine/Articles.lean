import FeedReader.ArticleList.View
import FeedReader.CommandLine.Action
import FeedReader.CommandLine.Explain

/-!
# Listing articles

* `Listing.list?`: the state of the article list that is asked for;
* `articleTable`;
* `listArticles`: the articles of a store, which may be marked as read after they have been loaded.
-/

namespace FeedReader.CommandLine

/-- The beginning of 1970, which stands for the last synchronization if there was none. -/
def epoch : Moment := .ofUtc ⟨719162 * Duration.day, by decide⟩

/-- The list of articles that is asked for; a report if its query or its sort order is none. -/
def Listing.list (l : Listing) (c : Config) (now : Moment) : Except Report ArticleList := do
  let list : ArticleList := { defaultOrder := c.defaultOrder, scope := l.scope.getD c.articleScope }
  let list ←
    if l.query = [] then pure list
    else
      match SplitQuery.read l.query now with
      | .ok q => pure (list.select q)
      | .error e => throw (queryFailure l.query e)
  match l.order with
  | none => return list
  | some t =>
    match SortOrder.read t with
    | .ok o => return { list with ownOrder := some o }
    | .error e => throw (.failure e.message)

/-- A time to the minute. -/
def minuteText (t : LocalTime) : Text :=
  let d := t.date
  Text.decimal d.year ++ "-" ++ Text.padded 2 d.month ++ "-" ++ Text.padded 2 d.day ++ " " ++
    Text.padded 2 t.hour ++ ":" ++ Text.padded 2 t.minute

/-- The row of an article. -/
def articleRow (l : Library) (a : Article) : List Text :=
  let feed := ((l.feed? a.feed).map (·.label)).getD a.feed
  [minuteText a.date.wall, feed, a.title.getD [], a.read.name]

/-- The table of the listed articles. -/
def articleTable (l : ArticleList) (v : ArticleView) : Terminal.Table where
  title := "Articles (" ++ l.effectiveOrder.text ++ ")"
  header := ["Date", "Feed", "Title", "State"]
  rows := v.articles.map (articleRow v.library)

/-- The message about a list of articles. -/
def listedMessage (v : ArticleView) : Int × Text :=
  (Log.Severity.info.level, "listed " ++ Text.decimal v.articles.length ++ " articles")

/-- Shows articles of a store. Those that are marked as read are shown as they were before. -/
def listArticles (l : ArticleList) (markRead : Bool) (s : Store) : Report × Store :=
  let lastSync := s.lastSync.getD epoch
  match l.load? s lastSync with
  | none => (.stopped [], s)
  | some v =>
    let left := if markRead then (v.setScopeRead s .all .read none lastSync).2 else s
    match (articleTable l v).lines? with
    | none => (.stopped [], left)
    | some lines => ({ Report.done lines with log := [listedMessage v] }, left)

end FeedReader.CommandLine
