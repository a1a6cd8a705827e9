import FeedReader.Article.Filter
import FeedReader.Calendar.Iso
import FeedReader.Query.SearchTerm

/-!
# Clauses of a query

* `Subject`: an article with what is known about it;
* `Field.content?`: the text that a field search looks at;
* `Atom`, `Atom.holds`, `Atom.text`;
* `Clause`: an atom, perhaps negated.
-/

namespace FeedReader.Query

/-- An article, its feed, the labels of its tags, and the time of the last synchronization. -/
structure Subject where
  article : Article
  feed : Option Feed
  tags : List Text
  lastSync : Moment

/-- An article as it stands in a library. -/
def Subject.ofArticle (l : Library) (lastSync : Moment) (a : Article) : Subject :=
  ⟨a, l.feed? a.feed, l.tagLabels a.id, lastSync⟩

/-- The text that a field search looks at; texts of an unknown feed are missing. -/
def Field.content? (s : Subject) : Field → Option Text
  | .title => s.article.title
  | .summary => s.article.summary
  | .author => s.article.author
  | .feed => s.feed.map (·.label)
  | .feedUrl => s.feed.bind (·.url)
  | .feedWebUrl => s.feed.bind (·.website)
  | .all =>
    some (Text.joinWith " "
      [s.article.title.getD [], s.article.summary.getD [], s.article.author.getD [],
        (s.feed.map (·.label)).getD [], (s.feed.bind (·.url)).getD [],
        (s.feed.bind (·.website)).getD []])

/-- A condition on an article. -/
inductive Atom
  | always
  | read (state : ReadState)
  | mark (state : MarkState)
  | tagged
  | lastSync
  | field (field : Field) (term : SearchTerm)
  | tag (labels : List Text)
  | bound (bound : Bound) (time : Moment)
  deriving DecidableEq

namespace Atom

/-- Whether an article meets a condition. -/
def holds (s : Subject) : Atom → Bool
  | always => true
  | read state => s.article.read = state
  | mark state => s.article.mark = state
  | tagged => !s.tags.isEmpty
  | lastSync => !s.article.synced.isBefore s.lastSync
  | field f term => (f.content? s).any fun content => term.holds content
  | tag labels => labels.any s.tags.contains
  | bound b time => b.holds s.article time

/-- The written form of a condition. -/
def text : Atom → Text
  | always => "*"
  | read state => state.name
  | mark state => state.name
  | tagged => "tagged"
  | lastSync => "lastsync"
  | field f term => f.name ++ ":" ++ term.text
  | tag labels => "tag:" ++ Text.joinWith "," (labels.map ('#' :: ·))
  | bound b time => boundName b ++ ":\"" ++ time.iso ++ "\""

end Atom

/-- A condition or its negation. -/
structure Clause where
  atom : Atom
  negated : Bool
  deriving DecidableEq

/-- Whether an article meets a clause. -/
def Clause.holds (c : Clause) (s : Subject) : Bool := c.atom.holds s != c.negated

/-- The written form of a clause. -/
def Clause.text (c : Clause) : Text := if c.negated then '~' :: c.atom.text else c.atom.text

end FeedReader.Query
