import FeedReader.Article
import FeedReader.Text.Case
import FeedReader.Text.Order

/-!
# Sort orders

A sort order is a list of keys; earlier keys take precedence and later ones break ties.

* `SortDirection`, `SortField`, `SortKey`, `SortOrder`;
* `SortOrder.text`, its canonical form;
* `SortKey.compare`, `SortOrder.compare`: the order of two articles. A missing text comes first, and
  an ascending date lists the newest article first;
* `SortOrder.sort`, which keeps the articles that compare equal in their order;
* `SortOrder.reversed`.
-/

namespace FeedReader

/-- The direction of a sort key. -/
inductive SortDirection
  | ascending
  | descending
  deriving DecidableEq

/-- The attribute that a sort key looks at. -/
inductive SortField
  | feed
  | date
  | synced
  | title
  | author
  deriving DecidableEq

/-- A field and a direction. -/
structure SortKey where
  field : SortField
  direction : SortDirection
  deriving DecidableEq

/-- Sort keys for different fields. -/
structure SortOrder where
  keys : List SortKey
  nodup : (keys.map (·.field)).Nodup
  deriving DecidableEq

namespace SortDirection

/-- The sign of a direction. -/
def symbol : SortDirection → Char
  | ascending => '<'
  | descending => '>'

/-- The opposite direction. -/
def reversed : SortDirection → SortDirection
  | ascending => descending
  | descending => ascending

/-- An order in this direction. -/
def apply : SortDirection → Ordering → Ordering
  | ascending, o => o
  | descending, o => o.swap

end SortDirection

namespace SortField

/-- The word for a field. -/
def keyword : SortField → Text
  | feed => "feed"
  | date => "date"
  | synced => "synced"
  | title => "title"
  | author => "author"

/-- What sorting by a field means. -/
def detail : SortField → Text
  | feed => "sort by the label of the article's feed"
  | date => "sort by publication date"
  | synced => "sort by the time the article was synced"
  | title => "sort by title"
  | author => "sort by author"

/-- All fields. -/
def list : List SortField := [feed, date, synced, title, author]

theorem mem_list (f : SortField) : f ∈ list := by cases f <;> decide

/-- No keyword of a field begins another one. -/
theorem eq_of_prefix {f g : SortField} (h : f.keyword.isPrefixOf g.keyword = true) : f = g := by
  have all : ∀ f ∈ list, ∀ g ∈ list, f.keyword.isPrefixOf g.keyword = true → f = g := by decide
  exact all f (mem_list f) g (mem_list g) h

end SortField

namespace SortKey

/-- The key in the opposite direction. -/
def reversed (k : SortKey) : SortKey := ⟨k.field, k.direction.reversed⟩

/-- The written form of a key. -/
def text (k : SortKey) : Text := k.direction.symbol :: k.field.keyword

/-- The order of two articles by one field, where newer articles come first. -/
def compareField (l : Library) (a b : Article) : SortField → Ordering
  | .feed =>
    Text.compareOption ((l.feed? a.feed).map (Text.upper ·.label))
      ((l.feed? b.feed).map (Text.upper ·.label))
  | .date => compareOfLessAndEq b.date.instant a.date.instant
  | .synced => compareOfLessAndEq b.synced.instant a.synced.instant
  | .title => Text.compareOption (a.title.map Text.upper) (b.title.map Text.upper)
  | .author => Text.compareOption (a.author.map Text.upper) (b.author.map Text.upper)

/-- The order of two articles by one key. -/
def compare (k : SortKey) (l : Library) (a b : Article) : Ordering :=
  k.direction.apply (compareField l a b k.field)

end SortKey

namespace SortOrder

/-- The order without keys, which leaves every list as it is. -/
def empty : SortOrder := ⟨[], List.nodup_nil⟩

/-- The order with one more key, unless there is one for its field. -/
def push? (o : SortOrder) (k : SortKey) : Option SortOrder :=
  if h : k.field ∈ o.keys.map (·.field) then none
  else some ⟨o.keys ++ [k], by
    rw [List.map_append, List.nodup_append]
    refine ⟨o.nodup, by simp, ?_⟩
    intro f hf g hg
    simp only [List.map_cons, List.map_nil, List.mem_singleton] at hg
    subst hg
    intro e
    exact h (e ▸ hf)⟩

/-- The order whose last key comes first, with every key in the opposite direction. -/
def reversed (o : SortOrder) : SortOrder :=
  ⟨(o.keys.map SortKey.reversed).reverse, by
    have fields : (o.keys.map SortKey.reversed).map (·.field) = o.keys.map (·.field) := by
      simp [SortKey.reversed, Function.comp_def]
    rw [List.map_reverse, fields]
    exact List.pairwise_reverse.2 (o.nodup.imp fun h => Ne.symm h)⟩

/-- The order, reversed if the flag is set. -/
def reverseIf (o : SortOrder) (flag : Bool) : SortOrder := if flag then o.reversed else o

/-- The canonical form of an order. -/
def text (o : SortOrder) : Text := Text.joinWith " " (o.keys.map SortKey.text)

/-- The order of two articles: the first key that tells them apart decides. -/
def compareBy (l : Library) (a b : Article) : List SortKey → Ordering
  | [] => .eq
  | k :: ks => (k.compare l a b).then (compareBy l a b ks)

/-- The order of two articles. -/
def compare (o : SortOrder) (l : Library) (a b : Article) : Ordering := compareBy l a b o.keys

/-- The articles in this order. -/
def sort (o : SortOrder) (l : Library) (articles : List Article) : List Article :=
  articles.mergeSort fun a b => o.compare l a b != .gt

end SortOrder

end FeedReader
