import FeedReader.Article.Filter
import FeedReader.Proofs.Calendar.Order
import FeedReader.Proofs.Sorting

/-!
# Articles with times in UTC

* `Article.content`: what an article says, its times as instants;
* `Article.HasUtc`, `ArticleFilter.HasUtc`: times that the calendar of UTC reaches;
* `Article.onUtc`: the same article with its times in UTC;
* `Article.compareListed`, `Article.Precedes`: the order of articles from new to old and then by
  identifier.
-/

namespace FeedReader

/-- What an article says, with its times as instants. -/
structure Article.Content where
  id : Text
  feed : Text
  date : Int
  synced : Int
  title : Option Text
  summary : Option Text
  author : Option Text
  url : Option Text
  read : ReadState
  mark : MarkState
  deriving DecidableEq

namespace Article

/-- What an article says. -/
def content (a : Article) : Content :=
  ⟨a.id, a.feed, a.date.instant, a.synced.instant, a.title, a.summary, a.author, a.url, a.read,
    a.mark⟩

/-- Whether the calendar of UTC reaches both times of an article. -/
def HasUtc (a : Article) : Prop := a.date.utc?.isSome ∧ a.synced.utc?.isSome

/-- The article with its times on the calendar of UTC. -/
def onUtc (a : Article) : Article :=
  { a with date := .ofUtc a.date.utcWall, synced := .ofUtc a.synced.utcWall }

theorem date_onUtc {a : Article} (h : a.HasUtc) : a.onUtc.date.instant = a.date.instant := by
  rw [onUtc, Moment.instant_ofUtc, Moment.micros_utcWall h.1]

theorem synced_onUtc {a : Article} (h : a.HasUtc) : a.onUtc.synced.instant = a.synced.instant := by
  rw [onUtc, Moment.instant_ofUtc, Moment.micros_utcWall h.2]

theorem content_onUtc {a : Article} (h : a.HasUtc) : a.onUtc.content = a.content := by
  rw [content, date_onUtc h, synced_onUtc h]
  rfl

/-- The order of two articles in lists: from new to old, and then by identifier. -/
def compareListed (a b : Article) : Ordering :=
  (compare b.date.instant a.date.instant).then (Text.compare a.id b.id)

/-- Whether an article stands before another one in lists. -/
def Precedes (a b : Article) : Prop :=
  b.date.instant < a.date.instant ∨
    a.date.instant = b.date.instant ∧ Text.compare a.id b.id = .lt

instance : Std.TransCmp compareListed :=
  have : Std.TransCmp fun a b : Article => compare b.date.instant a.date.instant :=
    transCmp_on (fun m n : Int => compare n m) fun a : Article => a.date.instant
  have : Std.TransCmp fun a b : Article => Text.compare a.id b.id :=
    transCmp_on Text.compare fun a : Article => a.id
  inferInstanceAs (Std.TransCmp (compareLex _ _))

theorem compareListed_eq_lt {a b : Article} : compareListed a b = .lt ↔ a.Precedes b := by
  simp only [compareListed, Precedes, Ordering.then_eq_lt, Int.compare_eq_lt, Int.compare_eq_eq]
  exact or_congr_right (and_congr_left' eq_comm)

theorem precedes_onUtc {a b : Article} (ha : a.HasUtc) (hb : b.HasUtc) :
    a.onUtc.Precedes b.onUtc ↔ a.Precedes b := by
  rw [Precedes, date_onUtc ha, date_onUtc hb]
  rfl

theorem Precedes.asymm {a b : Article} (h : a.Precedes b) : ¬ b.Precedes a := by
  rintro back
  have swap : compareListed b a = (compareListed a b).swap := Std.OrientedCmp.eq_swap
  rw [compareListed_eq_lt.2 h, compareListed_eq_lt.2 back] at swap
  exact absurd swap (by decide)

theorem id_of_compareListed {a b : Article} (h : compareListed a b = .eq) : a.id = b.id := by
  simp only [compareListed, Ordering.then_eq_eq] at h
  exact Std.LawfulEqCmp.eq_of_compare h.2

end Article

/-- Whether the calendar of UTC reaches all times of a filter. -/
def ArticleFilter.HasUtc (f : ArticleFilter) : Prop :=
  ∀ b m, f.bound? b = some m → m.utc?.isSome

end FeedReader
