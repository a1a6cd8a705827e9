import FeedReader.Article
import FeedReader.Calendar.Stamp
import FeedReader.Text.Order

/-!
# Records of the store

What is handed to the store may lack any field that it has a column for; what is stored lacks only
identifiers and the fields that are optional.

* `NewFeed`, `NewArticle`, `NewTag`: records to be stored;
* `FeedRow`, `ArticleRow`, `TagRow`, `Mapping`: stored records. An article's times are kept on the
  calendar of UTC and compared by their stamps;
* `FeedRow.feed?`, `ArticleRow.article?`, `TagRow.tag?`: rows with an identifier as records.
-/

namespace FeedReader.Store

/-! ### Records to be stored -/

/-- A feed to be stored. -/
structure NewFeed where
  id : Option Text
  label : Option Text
  url : Option Text
  website : Option Text
  deriving DecidableEq

/-- An article to be stored. -/
structure NewArticle where
  id : Option Text
  feed : Option Text
  date : Moment
  synced : Moment
  title : Option Text
  summary : Option Text
  author : Option Text
  url : Option Text
  read : ReadState
  mark : MarkState
  deriving DecidableEq

/-- A tag to be stored. -/
structure NewTag where
  id : Option Text
  label : Option Text
  color : Option Text
  deriving DecidableEq

/-- A feed as a record to be stored. -/
def NewFeed.ofFeed (f : Feed) : NewFeed := ⟨f.id, f.label, f.url, f.website⟩

/-- An article as a record to be stored. -/
def NewArticle.ofArticle (a : Article) : NewArticle :=
  ⟨a.id, a.feed, a.date, a.synced, a.title, a.summary, a.author, a.url, a.read, a.mark⟩

/-- A tag as a record to be stored. -/
def NewTag.ofTag (t : Tag) : NewTag := ⟨t.id, t.label, t.color⟩

/-! ### Stored records -/

/-- A stored feed. -/
structure FeedRow where
  id : Option Text
  label : Text
  url : Option Text
  website : Option Text
  deriving DecidableEq

/-- The place of a feed in a category. -/
structure Mapping where
  feed : Text
  category : Text
  deriving DecidableEq

/-- A stored article. -/
structure ArticleRow where
  id : Option Text
  feed : Text
  date : LocalTime
  synced : LocalTime
  title : Option Text
  summary : Option Text
  author : Option Text
  url : Option Text
  unread : Bool
  marked : Bool
  deriving DecidableEq

/-- A stored tag. -/
structure TagRow where
  id : Option Text
  label : Text
  color : Option Text
  deriving DecidableEq

/-- Whether two columns hold the same text; a missing text is not the same as any. -/
def sameText (a b : Option Text) : Bool := a.isSome && a = b

theorem sameText_iff {a b : Option Text} : sameText a b = true ↔ ∃ t, a = some t ∧ b = some t := by
  cases a <;> simp [sameText, eq_comm]

namespace FeedRow

/-- The order of feeds in lists. -/
def compare (a b : FeedRow) : Ordering := Text.compare a.label b.label

/-- The feed of a row that has an identifier. -/
def feed? (r : FeedRow) : Option Feed := r.id.map fun id => ⟨id, r.label, r.url, r.website⟩

end FeedRow

/-- The order of mappings in lists. -/
def Mapping.compare (a b : Mapping) : Ordering :=
  (Text.compare a.feed b.feed).then (Text.compare a.category b.category)

namespace ArticleRow

/-- The order of articles in lists: the newest first, and those of one time by identifier. -/
def compare (a b : ArticleRow) : Ordering :=
  (Text.compare b.date.stamp a.date.stamp).then (Text.compareOption a.id b.id)

/-- The read state of a row. -/
def read (r : ArticleRow) : ReadState := if r.unread then .unread else .read

/-- The marked state of a row. -/
def mark (r : ArticleRow) : MarkState := if r.marked then .marked else .unmarked

/-- The article of a row that has an identifier. -/
def article? (r : ArticleRow) : Option Article := r.id.map fun id =>
  { id, feed := r.feed, date := .ofUtc r.date, synced := .ofUtc r.synced, title := r.title,
    summary := r.summary, author := r.author, url := r.url, read := r.read, mark := r.mark }

end ArticleRow

namespace TagRow

/-- The order of tags in lists. -/
def compare (a b : TagRow) : Ordering := Text.compare a.label b.label

/-- The tag of a row that has an identifier. -/
def tag? (r : TagRow) : Option Tag := r.id.map fun id => ⟨id, r.label, r.color⟩

end TagRow

/-- The order of taggings in lists. -/
def compareTaggings (a b : Tagging) : Ordering :=
  (Text.compare a.article b.article).then (Text.compare a.tag b.tag)

end FeedReader.Store
