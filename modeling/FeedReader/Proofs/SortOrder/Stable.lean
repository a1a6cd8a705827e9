import FeedReader.Proofs.Sorting
import FeedReader.Proofs.Text.Order
import FeedReader.SortOrder

/-!
# Sort orders sort stably

* `SortKey.compare`, `SortOrder.compare` are transitive comparisons;
* `SortOrder.isStableSort_sort`.
-/

namespace FeedReader

variable (l : Library)

theorem SortDirection.transCmp_apply {α : Type} (d : SortDirection) (cmp : α → α → Ordering)
    [Std.TransCmp cmp] : Std.TransCmp fun a b => d.apply (cmp a b) := by
  cases d with
  | ascending => exact inferInstanceAs (Std.TransCmp cmp)
  | descending =>
    have opposite : (fun a b => (cmp a b).swap) = fun a b => cmp b a := by
      funext a b
      exact Std.OrientedCmp.eq_swap.symm
    show Std.TransCmp fun a b => (cmp a b).swap
    rw [opposite]
    exact Std.TransCmp.opposite

theorem SortKey.transCmp_compareField (f : SortField) :
    Std.TransCmp fun a b => SortKey.compareField l a b f := by
  have newest : Std.TransCmp fun m n : Int => compareOfLessAndEq n m :=
    inferInstanceAs (Std.TransCmp fun m n : Int => Ord.compare n m)
  cases f with
  | feed =>
    exact transCmp_on Text.compareOption fun a : Article =>
      (l.feed? a.feed).map (Text.upper ·.label)
  | date =>
    exact transCmp_on (fun m n : Int => compareOfLessAndEq n m) fun a : Article => a.date.instant
  | synced =>
    exact transCmp_on (fun m n : Int => compareOfLessAndEq n m) fun a : Article => a.synced.instant
  | title => exact transCmp_on Text.compareOption fun a : Article => a.title.map Text.upper
  | author => exact transCmp_on Text.compareOption fun a : Article => a.author.map Text.upper

instance (k : SortKey) : Std.TransCmp (k.compare l) :=
  have := SortKey.transCmp_compareField l k.field
  k.direction.transCmp_apply _

namespace SortOrder

theorem transCmp_compareBy (ks : List SortKey) : Std.TransCmp fun a b => compareBy l a b ks := by
  induction ks with
  | nil => exact { eq_swap := rfl, isLE_trans := fun _ _ => rfl }
  | cons k ks ih =>
    exact inferInstanceAs (Std.TransCmp (compareLex (k.compare l) fun a b => compareBy l a b ks))

instance (o : SortOrder) : Std.TransCmp (o.compare l) := transCmp_compareBy l o.keys

/-- Articles that a sort order does not tell apart keep their order. -/
theorem isStableSort_sort (o : SortOrder) (articles : List Article) :
    IsStableSort (o.compare l) articles (o.sort l articles) :=
  isStableSort_mergeSort articles

end SortOrder

end FeedReader
