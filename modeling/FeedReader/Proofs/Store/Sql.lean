import FeedReader.Proofs.Text.Order
import FeedReader.Proofs.Text.Words
import FeedReader.Store.Condition

/-!
# Conditions as text

A condition on rows is handed to the database as a text with places for values, and the values stand
in a list of their own.

* `column?`, `Parameter.compare?`, `meets?`: what such a text means, word by word, where every place
  takes the next value;
* `meets?_sqlOf`: the text for a list of comparisons means all of them.
-/

namespace FeedReader.Store

/-! ### The meaning of a condition -/

/-- The value in a column of a row. -/
def column? (r : ArticleRow) (name : Text) : Option Parameter :=
  if name = "unread" then some (.flag r.unread)
  else if name = "marked" then some (.flag r.marked)
  else if name = "date" then some (.stamp r.date.stamp)
  else if name = "synced" then some (.stamp r.synced.stamp)
  else none

/-- Whether two values are in a relation: flags can be equal, and stamps compare as texts. -/
def Parameter.compare? (relation : Text) : Parameter → Parameter → Option Bool
  | flag a, flag b => if relation = "=" then some (a = b) else none
  | stamp a, stamp b =>
    if relation = ">" then some (Text.compare a b = .gt)
    else if relation = "<" then some (Text.compare a b = .lt)
    else none
  | _, _ => none

/-- Whether a column of a row is in a relation to a value, for which there is a place. -/
def meetsOne? (r : ArticleRow) (name relation place : Text) (p : Parameter) : Option Bool :=
  if place = "?" then (column? r name).bind fun value => value.compare? relation p else none

/-- Whether a row meets a condition, given by its words and the values for its places. -/
def meets? (r : ArticleRow) : List Text → List Parameter → Option Bool
  | [word], [] => if word = "1=1" then some true else none
  | [name, relation, place], [p] => meetsOne? r name relation place p
  | name :: relation :: place :: word :: rest, p :: ps =>
    if word = "AND" then do
      let first ← meetsOne? r name relation place p
      let others ← meets? r rest ps
      return first && others
    else none
  | _, _ => none

/-! ### The text for comparisons -/

theorem words_sql (c : Comparison) :
    ∃ name relation place : Text, Text.words c.sql = [name, relation, place] ∧
      ∀ r, meetsOne? r name relation place c.parameter = some (c.holds r) := by
  -- the database has the column on the left
  have gt (s t : Text) : decide (Text.compare s t = .gt) = decide (Text.compare t s = .lt) := by
    rw [← Text.compare_swap t s]
    cases Text.compare t s <;> rfl
  cases c with
  | unread value =>
    refine ⟨"unread", "=", "?", ?_, fun r => rfl⟩
    change Text.words "unread = ?" = _
    decide
  | marked value =>
    refine ⟨"marked", "=", "?", ?_, fun r => rfl⟩
    change Text.words "marked = ?" = _
    decide
  | dateAfter stamp =>
    refine ⟨"date", ">", "?", ?_, fun r => congrArg some (gt _ _)⟩
    change Text.words "date > ?" = _
    decide
  | dateBefore stamp =>
    refine ⟨"date", "<", "?", ?_, fun r => rfl⟩
    change Text.words "date < ?" = _
    decide
  | syncedAfter stamp =>
    refine ⟨"synced", ">", "?", ?_, fun r => congrArg some (gt _ _)⟩
    change Text.words "synced > ?" = _
    decide
  | syncedBefore stamp =>
    refine ⟨"synced", "<", "?", ?_, fun r => rfl⟩
    change Text.words "synced < ?" = _
    decide

theorem words_sqlOf (c d : Comparison) (cs : List Comparison) :
    Text.words (sqlOf (c :: d :: cs)) =
      Text.words c.sql ++ "AND".toList :: Text.words (sqlOf (d :: cs)) := by
  have join : sqlOf (c :: d :: cs) = c.sql ++ ' ' :: ("AND".toList ++ ' ' :: sqlOf (d :: cs)) := by
    simp [sqlOf, Text.joinWith, List.intercalate]
  rw [join, Text.words_append, Text.words_append]
  rfl

/-- The text for a list of comparisons means that all of them hold. -/
theorem meets?_sqlOf (r : ArticleRow) (cs : List Comparison) :
    meets? r (Text.words (sqlOf cs)) (cs.map (·.parameter)) = some (cs.all (·.holds r)) := by
  induction cs with
  | nil => rfl
  | cons c cs ih =>
    obtain ⟨name, relation, place, words, holds⟩ := words_sql c
    cases cs with
    | nil =>
      have single : sqlOf [c] = c.sql := by simp [sqlOf, Text.joinWith]
      simp [single, words, meets?, holds]
    | cons d cs =>
      rw [words_sqlOf, words, List.map_cons, List.all_cons]
      simp only [List.cons_append, List.nil_append, meets?, holds, ih]
      rfl

end FeedReader.Store
