import FeedReader.Pattern.Reader
import FeedReader.Query.Lexer
import FeedReader.Text.Case

/-!
# Search terms

* `SearchTerm`: a verbatim text, a word that is searched in any letter case, or a regular
  expression;
* `SearchTerm.holds`: whether a content contains what is searched;
* `SearchTerm.text`: the written form.
-/

namespace FeedReader.Query

/-- What is searched in a content. -/
inductive SearchTerm
  | verbatim (text : Text)
  | word (text : Text)
  | regex (regex : Regex)
  deriving DecidableEq

namespace SearchTerm

/-- Whether a content contains what is searched. -/
def holds (content : Text) : SearchTerm → Bool
  | verbatim t => Text.occursIn t content
  | word t => Text.occursIn (Text.lower t) (Text.lower content)
  | regex r => r.search content

/-- The written form of a search term. -/
def text : SearchTerm → Text
  | verbatim t => '"' :: (t ++ ['"'])
  | word t => t
  | regex r => '/' :: (r.source ++ ['/'])

end SearchTerm

end FeedReader.Query
