import FeedReader.Article.Filter

/-!
# Tokens of the query language

A query is written with keywords, each a fixed literal, and with the four kinds of open-ended
tokens: quoted strings, regular expressions, tag lists and words.

* `Field`, `boundName`: what the keywords speak about;
* `Keyword` with its `literal`, and `Keyword.list`, all of them in the order of the help texts;
* `Token`;
* `Keyword.eq_of_prefix`: no literal begins another, so at most one keyword starts a text.
-/

namespace FeedReader

namespace Query

/-- The texts of an article and its feed that can be searched. -/
inductive Field
  | feed
  | title
  | summary
  | author
  | feedUrl
  | feedWebUrl
  | all
  deriving DecidableEq

/-- The name of a field, without the colon. -/
def Field.name : Field → Text
  | .feed => "feed"
  | .title => "title"
  | .summary => "summary"
  | .author => "author"
  | .feedUrl => "feedurl"
  | .feedWebUrl => "feedweburl"
  | .all => "all"

/-- The name of a bound, without the colon. -/
def boundName : Bound → Text
  | .newer => "newer"
  | .older => "older"
  | .syncedBefore => "syncedbefore"
  | .syncedAfter => "syncedafter"

/-- The keywords, each standing for a literal. -/
inductive Keyword
  | negate
  | always
  | read (state : ReadState)
  | mark (state : MarkState)
  | tagged
  | bound (bound : Bound)
  | today
  | lastSync
  | field (field : Field)
  | tag
  | sort
  deriving DecidableEq

namespace Keyword

/-- How a keyword is written. -/
def literal : Keyword → Text
  | negate => "~"
  | always => "*"
  | read state => state.name
  | mark state => state.name
  | tagged => "tagged"
  | bound b => boundName b ++ ":"
  | today => "today"
  | lastSync => "lastsync"
  | field f => f.name ++ ":"
  | tag => "tag:"
  | sort => "sort:"

/-- A keyword and what has to follow it. -/
def usage : Keyword → Text
  | bound b => boundName b ++ ":<time>"
  | field f => f.name ++ ":<search term>"
  | tag => "tag:<tag list>"
  | sort => "sort:\"<sort order>\""
  | k => k.literal

/-- What a keyword selects. -/
def detail : Keyword → Text
  | negate => "negation ('not')"
  | always => "matches all"
  | read .read => "read articles"
  | read .unread => "unread articles"
  | mark .marked => "marked articles"
  | mark .unmarked => "unmarked articles"
  | tagged => "articles with a tag"
  | bound .newer => "articles newer than the defined time"
  | bound .older => "articles older than the defined time"
  | bound .syncedBefore => "articles synced before the defined time"
  | bound .syncedAfter => "articles synced after the defined time"
  | today => "articles from today"
  | lastSync => "articles retrieved in the last sync operation"
  | field .feed => "articles with a feed matching the search term"
  | field .title => "articles with a title matching the search term"
  | field .summary => "articles with a summary matching the search term"
  | field .author => "articles with an author matching the search term"
  | field .all => "articles with any field containing the search term"
  | field .feedUrl => "articles with a feed URL containing the search term"
  | field .feedWebUrl => "articles with a feed web URL containing the search term"
  | tag => "articles carrying any of the listed tags"
  | sort => "sorts the articles by the given sort order"

/-- All keywords. -/
def list : List Keyword :=
  [negate, always, read .read, read .unread, mark .marked, mark .unmarked, tagged,
    bound .newer, bound .older, today, lastSync, bound .syncedBefore, bound .syncedAfter,
    field .feed, field .title, field .summary, field .author, field .all, field .feedUrl,
    field .feedWebUrl, tag, sort]

theorem mem_list (k : Keyword) : k ∈ list := by
  cases k with
  | read s => cases s <;> decide
  | mark s => cases s <;> decide
  | bound b => cases b <;> decide
  | field f => cases f <;> decide
  | _ => decide

/-- No literal begins another one. -/
theorem eq_of_prefix {j k : Keyword} (h : j.literal.isPrefixOf k.literal = true) : j = k := by
  have all : ∀ j ∈ list, ∀ k ∈ list, j.literal.isPrefixOf k.literal = true → j = k := by decide
  exact all j (mem_list j) k (mem_list k) h

/-- The keyword that a text starts with. -/
def startOf? (t : Text) : Option Keyword := list.find? fun k => k.literal.isPrefixOf t

end Keyword

/-- The kinds of tokens; an error is a single character that begins no token. -/
inductive Token
  | keyword (k : Keyword)
  | quoted
  | regex
  | tagList
  | word
  | error
  deriving DecidableEq

end Query

end FeedReader
