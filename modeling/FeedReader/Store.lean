import FeedReader.Failure
import FeedReader.Store.Condition

/-!
# The store

The store keeps feeds, articles and tags in tables. Changes count at once; an operation that
succeeds also makes them permanent, together with those that earlier operations have left. Adding a
feed that cannot be stored takes back what is not permanent yet.

* `Tables`: the tables, and the changes to them that can be refused;
* `Store`, `Store.Error`;
* `Store.addFeed`, `removeFeed`, `addArticles`, `addTag`, `tagArticle`, `untagArticle`, `setRead`,
  `setMark`, `recordSync`: the operations;
* `Store.feeds`, `mappings`, `articles?`, `tags`, `taggings`, `lastSync`: what is stored, in order.
-/

namespace FeedReader

namespace Store

/-- The tables of a store. -/
structure Tables where
  feeds : List FeedRow
  mappings : List Mapping
  articles : List ArticleRow
  tags : List TagRow
  taggings : List Tagging
  lastSync : Option LocalTime
  deriving DecidableEq

namespace Tables

/-- Tables without rows. -/
def empty : Tables := ⟨[], [], [], [], [], none⟩

/-- Stores the place of a feed in a category, which has to be a new one. -/
def insertMapping? (t : Tables) (feed category : Option Text) : Option Tables :=
  match feed, category with
  | _, none => some t
  | none, some _ => none
  | some f, some c =>
    if (⟨f, c⟩ : Mapping) ∈ t.mappings then none
    else some { t with mappings := t.mappings ++ [⟨f, c⟩] }

/-- Stores a feed, perhaps in a category. The feed needs a label, and no other feed may have its
identifier or its address. -/
def insertFeed? (t : Tables) (f : NewFeed) (category : Option Text) : Option Tables :=
  match f.label with
  | none => none
  | some label =>
    if t.feeds.any fun r => sameText f.id r.id || sameText f.url r.url then none
    else
      insertMapping? { t with feeds := t.feeds ++ [⟨f.id, label, f.url, f.website⟩] } f.id category

/-- Stores an article with the given times. The article needs a feed, and no other article may have
its identifier. -/
def insertArticle? (t : Tables) (a : NewArticle) (date synced : LocalTime) : Option Tables :=
  match a.feed with
  | none => none
  | some feed =>
    if t.articles.any fun r => sameText a.id r.id then none
    else
      some { t with articles := t.articles ++
        [⟨a.id, feed, date, synced, a.title, a.summary, a.author, a.url, a.read = .unread,
          a.mark = .marked⟩] }

/-- Stores articles one after the other and counts those that are new; the rest is left alone. An
article whose times are outside the calendar of UTC ends it without a count. -/
def insertArticles (t : Tables) : List NewArticle → Option Nat × Tables
  | [] => (some 0, t)
  | a :: rest =>
    match a.date.utc?, a.synced.utc? with
    | some date, some synced =>
      match t.insertArticle? a date.wall synced.wall with
      | some u => ((insertArticles u rest).1.map (· + 1), (insertArticles u rest).2)
      | none => insertArticles t rest
    | _, _ => (none, t)

/-- Stores a tag. The tag needs a label, and no other tag may have its identifier or its label. -/
def insertTag? (t : Tables) (g : NewTag) : Option Tables :=
  match g.label with
  | none => none
  | some label =>
    if t.tags.any fun r => sameText g.id r.id || r.label = label then none
    else some { t with tags := t.tags ++ [⟨g.id, label, g.color⟩] }

/-- Removes a feed with its articles, their taggings and its mappings. -/
def removeFeed (t : Tables) (id : Text) : Tables :=
  let removed (r : ArticleRow) : Bool := r.feed = id
  { t with
    feeds := t.feeds.filter (·.id ≠ some id)
    mappings := t.mappings.filter (·.feed ≠ id)
    articles := t.articles.filter (!removed ·)
    taggings := t.taggings.filter fun g =>
      !t.articles.any fun r => removed r && r.id = some g.article }

/-- Changes the articles with one of the given identifiers. -/
def updateArticles (t : Tables) (ids : List (Option Text)) (change : ArticleRow → ArticleRow) :
    Tables :=
  { t with
    articles := t.articles.map fun r => if r.id.isSome && ids.contains r.id then change r else r }

/-- The number of articles with one of the given identifiers. -/
def countArticles (t : Tables) (ids : List (Option Text)) : Nat :=
  t.articles.countP fun r => r.id.isSome && ids.contains r.id

end Tables

/-! ### Operations -/

/-- Why the store refuses a record. -/
inductive Error
  | feedExists (id url : Option Text)
  | tagExists (id label : Option Text)
  deriving DecidableEq

/-- A text in a message, where a missing one is named. -/
def shown (t : Option Text) : Text := t.getD "None"

/-- The wording of an error. -/
def Error.message : Error → Text
  | feedExists id url => "Feed '" ++ shown id ++ "' or URL '" ++ shown url ++ "' already exists"
  | tagExists id label => "Tag '" ++ shown id ++ "' or label '" ++ shown label ++ "' already exists"

end Store

/-- The tables as they are, and as they were when they were last made permanent. -/
structure Store where
  saved : Store.Tables
  tables : Store.Tables
  deriving DecidableEq

namespace Store

/-- The store without records. -/
def empty : Store := ⟨.empty, .empty⟩

/-- The result of an operation, and the store after it. -/
abbrev Outcome (α : Type) := Except (Failure Error) α × Store

/-- The store with its tables made permanent. -/
def save (s : Store) : Store := ⟨s.tables, s.tables⟩

/-- The store with the tables that were last made permanent. -/
def restore (s : Store) : Store := ⟨s.saved, s.saved⟩

/-- The store with other tables, made permanent. -/
def saving (t : Tables) : Store := ⟨t, t⟩

/-- Adds a feed, perhaps in a category. -/
def addFeed (s : Store) (f : NewFeed) (category : Option Text) : Outcome Unit :=
  match s.tables.insertFeed? f category with
  | some t => (.ok (), saving t)
  | none => (.error (.own (.feedExists f.id f.url)), s.restore)

/-- Removes a feed and counts the articles that go with it; nothing if there is no such feed. -/
def removeFeed (s : Store) (id : Option Text) : Option Nat × Store :=
  match id with
  | none => (none, s)
  | some id =>
    if s.tables.feeds.any (·.id = some id) then
      (some (s.tables.articles.countP (·.feed = id)), saving (s.tables.removeFeed id))
    else (none, s)

/-- Adds articles and counts those that are new. -/
def addArticles (s : Store) (articles : List NewArticle) : Outcome Nat :=
  match s.tables.insertArticles articles with
  | (some n, t) => (.ok n, saving t)
  | (none, t) => (.error .outOfCalendar, { s with tables := t })

/-- Adds a tag. -/
def addTag (s : Store) (g : NewTag) : Outcome Unit :=
  match s.tables.insertTag? g with
  | some t => (.ok (), saving t)
  | none => (.error (.own (.tagExists g.id g.label)), s)

/-- Puts a tag on an article; tells whether it was not there. -/
def tagArticle (s : Store) (article tag : Option Text) : Bool × Store :=
  match article, tag with
  | some a, some g =>
    if (⟨a, g⟩ : Tagging) ∈ s.tables.taggings then (false, s.save)
    else (true, saving { s.tables with taggings := s.tables.taggings ++ [⟨a, g⟩] })
  | _, _ => (false, s.save)

/-- Takes a tag off an article; tells whether it was there. -/
def untagArticle (s : Store) (article tag : Option Text) : Bool × Store :=
  match article, tag with
  | some a, some g =>
    (decide ((⟨a, g⟩ : Tagging) ∈ s.tables.taggings),
      saving { s.tables with taggings := s.tables.taggings.filter (· ≠ ⟨a, g⟩) })
  | _, _ => (false, s.save)

/-- Changes the articles with one of the given identifiers and counts them. -/
def update (s : Store) (ids : List (Option Text)) (change : ArticleRow → ArticleRow) :
    Nat × Store :=
  if ids.isEmpty then (0, s)
  else (s.tables.countArticles ids, saving (s.tables.updateArticles ids change))

/-- Sets the read state of articles and counts them. -/
def setRead (s : Store) (ids : List (Option Text)) (state : ReadState) : Nat × Store :=
  s.update ids fun r => { r with unread := state = .unread }

/-- Sets the marked state of articles and counts them. -/
def setMark (s : Store) (ids : List (Option Text)) (state : MarkState) : Nat × Store :=
  s.update ids fun r => { r with marked := state = .marked }

/-- Records the time of a synchronization, and gives it back on the calendar of UTC. -/
def recordSync (s : Store) (time : Moment) : Outcome Moment :=
  match time.utc? with
  | some utc => (.ok utc, saving { s.tables with lastSync := some utc.wall })
  | none => (.error .outOfCalendar, s)

/-! ### What is stored -/

/-- The feeds, ordered by label. -/
def feeds (s : Store) : List FeedRow := s.tables.feeds.mergeSort fun a b => a.compare b != .gt

/-- The mappings, ordered by feed and category. -/
def mappings (s : Store) : List Mapping :=
  s.tables.mappings.mergeSort fun a b => a.compare b != .gt

/-- The tags, ordered by label. -/
def tags (s : Store) : List TagRow := s.tables.tags.mergeSort fun a b => a.compare b != .gt

/-- The taggings, ordered by article and tag. -/
def taggings (s : Store) : List Tagging :=
  s.tables.taggings.mergeSort fun a b => compareTaggings a b != .gt

/-- The articles that pass a filter, ordered from new to old and then by identifier. Among articles
of one time without identifiers the last one stored comes first, or the first one if the filter is
about the read state. Nothing if the filter has a time outside the calendar of UTC. -/
def articles? (s : Store) (f : ArticleFilter) : Option (List ArticleRow) :=
  (comparisons? f).map fun cs =>
    let rows := if f.read.isSome then s.tables.articles else s.tables.articles.reverse
    (rows.filter fun r => cs.all (·.holds r)).mergeSort fun a b => a.compare b != .gt

/-- The time of the last synchronization. -/
def lastSync (s : Store) : Option Moment := s.tables.lastSync.map .ofUtc

/-- What articles are looked up in. -/
def library (s : Store) : Library :=
  ⟨s.feeds.filterMap (·.feed?), s.tags.filterMap (·.tag?), s.taggings⟩

end Store

end FeedReader
