import FeedReader.Calendar.Moment

/-!
# Articles, feeds and tags

* `ReadState`, `MarkState`: the two states of an article that a user changes;
* `Article`, `Feed`, `Tag`, `Tagging`: the records;
* `ArticleScope`: which articles a list shows;
* `Library`: the feeds, tags and taggings that articles are looked up in. Of two feeds or tags with
  one identifier the later one counts.
-/

namespace FeedReader

/-- The read state of an article. -/
inductive ReadState
  | read
  | unread
  deriving DecidableEq

/-- Whether an article is marked. -/
inductive MarkState
  | marked
  | unmarked
  deriving DecidableEq

/-- The other read state. -/
def ReadState.flip : ReadState → ReadState
  | .read => .unread
  | .unread => .read

/-- The other marked state. -/
def MarkState.flip : MarkState → MarkState
  | .marked => .unmarked
  | .unmarked => .marked

/-- The word for a read state. -/
def ReadState.name : ReadState → Text
  | .read => "read"
  | .unread => "unread"

/-- The word for a marked state. -/
def MarkState.name : MarkState → Text
  | .marked => "marked"
  | .unmarked => "unmarked"

/-- An article of a feed. -/
structure Article where
  id : Text
  feed : Text
  date : Moment
  synced : Moment
  title : Option Text
  summary : Option Text
  author : Option Text
  url : Option Text
  read : ReadState
  mark : MarkState
  deriving DecidableEq

/-- A subscribed feed. -/
structure Feed where
  id : Text
  label : Text
  url : Option Text
  website : Option Text
  deriving DecidableEq

/-- A tag of the user. -/
structure Tag where
  id : Text
  label : Text
  color : Option Text
  deriving DecidableEq

/-- A tag put on an article. -/
structure Tagging where
  article : Text
  tag : Text
  deriving DecidableEq

/-! ### Scopes -/

/-- Which articles a list shows. -/
inductive ArticleScope
  | all
  | unread
  | marked
  deriving DecidableEq

namespace ArticleScope

/-- The word for a scope. -/
def keyword : ArticleScope → Text
  | all => "all"
  | unread => "unread"
  | marked => "marked"

/-- What a scope shows. -/
def detail : ArticleScope → Text
  | all => "all articles"
  | unread => "only unread articles"
  | marked => "only marked articles"

/-- All scopes. -/
def list : List ArticleScope := [all, unread, marked]

/-- The scope that a word stands for. -/
def ofKeyword? (t : Text) : Option ArticleScope := list.find? (·.keyword = t)

@[simp] theorem ofKeyword?_keyword (s : ArticleScope) : ofKeyword? s.keyword = some s := by
  cases s <;> decide

end ArticleScope

/-! ### Looking records up -/

/-- The records that articles are looked up in. -/
structure Library where
  feeds : List Feed
  tags : List Tag
  taggings : List Tagging

namespace Library

/-- The library without any record. -/
def empty : Library := ⟨[], [], []⟩

/-- The feed with an identifier. -/
def feed? (l : Library) (id : Text) : Option Feed := l.feeds.reverse.find? (·.id = id)

/-- The tag with an identifier. -/
def tag? (l : Library) (id : Text) : Option Tag := l.tags.reverse.find? (·.id = id)

/-- The identifiers of the tags on an article, in the order of the taggings. -/
def tagIds (l : Library) (article : Text) : List Text :=
  (l.taggings.filter (·.article = article)).map (·.tag)

/-- The labels of the known tags on an article. -/
def tagLabels (l : Library) (article : Text) : List Text :=
  (l.tagIds article).filterMap fun id => (l.tag? id).map (·.label)

/-- One feed for each identifier, with the later one's record at the earlier one's place. -/
def feedMap (l : Library) : List Feed :=
  (l.feeds.map (·.id)).reverse.eraseDups.reverse.filterMap l.feed?

/-- One tag for each identifier. -/
def tagMap (l : Library) : List Tag :=
  (l.tags.map (·.id)).reverse.eraseDups.reverse.filterMap l.tag?

/-- The tagged articles and the identifiers of their tags. -/
def tagged (l : Library) : List (Text × List Text) :=
  (l.taggings.map (·.article)).eraseDups.map fun id => (id, l.tagIds id)

end Library

end FeedReader
