import FeedReader.Article

/-!
# Article filters

A filter is the part of a query that a store of articles can evaluate by itself: the two states and
bounds on the two times of an article. All time bounds are strict.

* `Bound`: which time is bounded, and from which side;
* `ArticleFilter`, `ArticleFilter.holds`;
* `ArticleFilter.withRead`, `withMark`, `narrow`: adding a condition. A state replaces the one there
  was, and of two bounds of one kind the narrower one remains;
* `ArticleScope.filter`.
-/

namespace FeedReader

/-- The comparisons of an article's times with a given one. -/
inductive Bound
  | newer
  | older
  | syncedBefore
  | syncedAfter
  deriving DecidableEq

namespace Bound

/-- The comparison in the other direction. -/
def opposite : Bound → Bound
  | newer => older
  | older => newer
  | syncedBefore => syncedAfter
  | syncedAfter => syncedBefore

/-- Whether an article lies on the side of a time that a bound asks for. -/
def holds (a : Article) (time : Moment) : Bound → Bool
  | newer => time.isBefore a.date
  | older => a.date.isBefore time
  | syncedBefore => a.synced.isBefore time
  | syncedAfter => time.isBefore a.synced

/-- The narrower of two times for a bound. -/
def narrower : Bound → Moment → Moment → Moment
  | newer, s, t => s.latest t
  | older, s, t => s.earliest t
  | syncedBefore, s, t => s.earliest t
  | syncedAfter, s, t => s.latest t

/-- The narrower of two times lets through what both of them let through. -/
theorem holds_narrower (b : Bound) (s t : Moment) (a : Article) :
    b.holds a (b.narrower s t) = (b.holds a s && b.holds a t) := by
  cases b <;>
    simp only [holds, narrower, Moment.isBefore, Moment.instant_latest, Moment.instant_earliest] <;>
    rw [← Bool.decide_and, decide_eq_decide] <;> omega

end Bound

/-- Conditions on the states and times of an article; what is not set does not matter. -/
structure ArticleFilter where
  read : Option ReadState := none
  mark : Option MarkState := none
  newerThan : Option Moment := none
  olderThan : Option Moment := none
  syncedBefore : Option Moment := none
  syncedAfter : Option Moment := none
  deriving DecidableEq

namespace ArticleFilter

/-- The filter that every article passes. -/
def empty : ArticleFilter := {}

/-- Whether a filter sets no condition. -/
def isEmpty (f : ArticleFilter) : Bool :=
  f.read.isNone && f.mark.isNone && f.newerThan.isNone && f.olderThan.isNone &&
    f.syncedBefore.isNone && f.syncedAfter.isNone

/-- The time that a bound of the filter has. -/
def bound? (f : ArticleFilter) : Bound → Option Moment
  | .newer => f.newerThan
  | .older => f.olderThan
  | .syncedBefore => f.syncedBefore
  | .syncedAfter => f.syncedAfter

/-- The filter with another time for a bound. -/
def setBound (f : ArticleFilter) (time : Moment) : Bound → ArticleFilter
  | .newer => { f with newerThan := some time }
  | .older => { f with olderThan := some time }
  | .syncedBefore => { f with syncedBefore := some time }
  | .syncedAfter => { f with syncedAfter := some time }

/-- The filter with the narrower of a bound's time and another one. -/
def narrow (f : ArticleFilter) (b : Bound) (time : Moment) : ArticleFilter :=
  f.setBound (match f.bound? b with
    | some current => b.narrower current time
    | none => time) b

/-- The filter with another read state. -/
def withRead (f : ArticleFilter) (s : ReadState) : ArticleFilter := { f with read := some s }

/-- The filter with another marked state. -/
def withMark (f : ArticleFilter) (s : MarkState) : ArticleFilter := { f with mark := some s }

/-- Whether an article passes the filter. -/
def holds (f : ArticleFilter) (a : Article) : Bool :=
  f.read.all (a.read = ·) && f.mark.all (a.mark = ·) &&
    f.newerThan.all (Bound.newer.holds a) && f.olderThan.all (Bound.older.holds a) &&
    f.syncedBefore.all (Bound.syncedBefore.holds a) && f.syncedAfter.all (Bound.syncedAfter.holds a)

@[simp] theorem holds_empty (a : Article) : empty.holds a = true := rfl

theorem holds_withRead (f : ArticleFilter) (s : ReadState) (a : Article) :
    (f.withRead s).holds a = ({ f with read := none }.holds a && a.read = s) := by
  simp [holds, withRead, Bool.and_comm, Bool.and_left_comm, Bool.and_assoc]

theorem holds_withMark (f : ArticleFilter) (s : MarkState) (a : Article) :
    (f.withMark s).holds a = ({ f with mark := none }.holds a && a.mark = s) := by
  simp [holds, withMark, Bool.and_comm, Bool.and_left_comm]

theorem holds_narrow (f : ArticleFilter) (b : Bound) (time : Moment) (a : Article) :
    (f.narrow b time).holds a = (f.holds a && b.holds a time) := by
  cases b <;> simp only [holds, narrow, bound?, setBound] <;> split <;>
    simp_all [Bound.holds_narrower, Bool.and_comm, Bool.and_left_comm, Bool.and_assoc]

end ArticleFilter

/-- The condition of a scope. -/
def ArticleScope.filter : ArticleScope → ArticleFilter
  | all => {}
  | unread => { read := some .unread }
  | marked => { mark := some .marked }

end FeedReader
