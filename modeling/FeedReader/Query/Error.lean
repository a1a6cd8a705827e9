import FeedReader.Query.SearchTerm
import FeedReader.SortOrder.Reader

/-!
# Errors of the query language

* `Query.Fault`: what can be wrong with a query;
* `Query.Error`: a fault with the text it was found at, and its `message`.
-/

namespace FeedReader.Query

/-- What is wrong with a query. -/
inductive Fault
  | invalidToken
  | keyOrWordExpected
  | keyAfterNegationExpected
  | searchTermExpected
  | tagListExpected
  | sortOrderExpected
  | multipleSortOrders
  | timeExpected
  | invalidRegex
  | invalidSortOrder (cause : SortOrder.Error)
  deriving DecidableEq

/-- A fault and the text it was found at. -/
structure Error where
  fault : Fault
  offset : Nat
  fragment : Text
  deriving DecidableEq

/-- The wording of a fault. -/
def Fault.message : Fault → Text
  | invalidToken => "invalid token"
  | keyOrWordExpected => "expecting key (title:, newer:, ...) or word to search"
  | keyAfterNegationExpected => "expecting key after negation (~key:...)"
  | searchTermExpected => "expecting search term (unquoted word, regex or quoted string)"
  | tagListExpected => "expecting tag list (#tag1,#tag2,#tag3,...)"
  | sortOrderExpected => "expecting sort order (e.g., \"date <feed\")"
  | multipleSortOrders => "multiple sort orders found, only one sort order allowed"
  | timeExpected => "expecting time or relative time"
  | invalidRegex => "invalid regular expression"
  | invalidSortOrder _ => "invalid sort order"

/-- The wording of an error. -/
def Error.message (e : Error) : Text :=
  e.fault.message ++ SortOrder.placeText e.offset e.fragment

/-- An error at a lexeme. -/
def Lexeme.error (x : Lexeme) (f : Fault) : Error := ⟨f, x.start, x.text⟩

/-- The search term that a lexeme stands for. -/
def SearchTerm.ofLexeme (x : Lexeme) : Except Error SearchTerm :=
  match x.token with
  | .regex =>
    match Regex.ofText? (Text.inner x.text) with
    | some r => .ok (.regex r)
    | none => .error (x.error .invalidRegex)
  | .quoted => .ok (.verbatim (Text.inner x.text))
  | .word => .ok (.word x.text)
  | _ => .error (x.error .searchTermExpected)

/-- The search term that the first token of a text stands for. -/
def SearchTerm.read (t : Text) : Except Error SearchTerm :=
  match (Cursor.start t).next with
  | (some x, _) => ofLexeme x
  | (none, c) => .error ⟨.searchTermExpected, c.position, []⟩

end FeedReader.Query
