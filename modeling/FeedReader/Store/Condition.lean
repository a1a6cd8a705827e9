import FeedReader.Article.Filter
import FeedReader.Store.Row

/-!
# Conditions on rows

The store evaluates a filter as a list of comparisons of a row's columns with fixed values. Times
are compared as stamps, which is right since stamps are ordered like the times they stand for.

* `Comparison`, `Comparison.holds`;
* `Comparison.sql`, `sqlOf`, `Comparison.parameter`: a condition as text, with places for its
  values;
* `comparisons?`: the comparisons of a filter.
-/

namespace FeedReader.Store

/-- A value that a column is compared with. -/
inductive Parameter
  | flag (value : Bool)
  | stamp (text : Text)
  deriving DecidableEq

/-- A comparison of a column of a row with a value. -/
inductive Comparison
  | unread (value : Bool)
  | marked (value : Bool)
  | dateAfter (stamp : Text)
  | dateBefore (stamp : Text)
  | syncedAfter (stamp : Text)
  | syncedBefore (stamp : Text)
  deriving DecidableEq

namespace Comparison

/-- Whether a row meets a comparison. -/
def holds (r : ArticleRow) : Comparison → Bool
  | unread value => r.unread = value
  | marked value => r.marked = value
  | dateAfter stamp => Text.compare stamp r.date.stamp = .lt
  | dateBefore stamp => Text.compare r.date.stamp stamp = .lt
  | syncedAfter stamp => Text.compare stamp r.synced.stamp = .lt
  | syncedBefore stamp => Text.compare r.synced.stamp stamp = .lt

/-- A comparison as text. -/
def sql : Comparison → Text
  | unread _ => "unread = ?"
  | marked _ => "marked = ?"
  | dateAfter _ => "date > ?"
  | dateBefore _ => "date < ?"
  | syncedAfter _ => "synced > ?"
  | syncedBefore _ => "synced < ?"

/-- The value of a comparison. -/
def parameter : Comparison → Parameter
  | unread value => .flag value
  | marked value => .flag value
  | dateAfter stamp => .stamp stamp
  | dateBefore stamp => .stamp stamp
  | syncedAfter stamp => .stamp stamp
  | syncedBefore stamp => .stamp stamp

end Comparison

/-- A conjunction of comparisons as text. -/
def sqlOf : List Comparison → Text
  | [] => "1=1"
  | cs => Text.joinWith " AND " (cs.map Comparison.sql)

/-- The comparison with the stamp of a time, if there is one; nothing if the time has no stamp. -/
def timeComparison? (make : Text → Comparison) : Option Moment → Option (List Comparison)
  | none => some []
  | some m => m.stamp?.map fun s => [make s]

/-- The comparisons that a filter stands for; nothing if one of its times has no stamp. -/
def comparisons? (f : ArticleFilter) : Option (List Comparison) := do
  let newer ← timeComparison? .dateAfter f.newerThan
  let older ← timeComparison? .dateBefore f.olderThan
  let after ← timeComparison? .syncedAfter f.syncedAfter
  let before ← timeComparison? .syncedBefore f.syncedBefore
  return (f.read.map fun s => Comparison.unread (s = .unread)).toList ++
    (f.mark.map fun s => Comparison.marked (s = .marked)).toList ++
    newer ++ older ++ after ++ before

end FeedReader.Store
