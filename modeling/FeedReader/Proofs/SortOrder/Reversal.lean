import FeedReader.Proofs.SortOrder.Stable

/-!
# Reversed sort orders

The opposite of a sort order has its keys at the same places, each in the other direction. The
reversed order also puts the last key first, so that it is the opposite of the order that starts from
the last key.

* `SortOrder.backwards`: the keys from the last one to the first;
* `SortOrder.compare_reversed`: the reversed order is the opposite of the order backwards;
* `SortOrder.sort_eq_reverse_sort`: without ties the opposite order gives the reverse of the list;
* `SortOrder.exists_compareField`: articles that compare in given ways;
* `SortOrder.opposite_iff`: the reversed order is the opposite of the order itself if there is at most
  one key, and only then;
* `SortOrder.sort_reversed`: all of this for the sorted lists.
-/

namespace FeedReader

variable {l : Library} {a b : Article}

theorem SortDirection.apply_apply (d : SortDirection) (o : Ordering) : d.apply (d.apply o) = o := by
  cases d with
  | ascending => rfl
  | descending => exact Ordering.swap_swap

namespace SortKey

theorem compare_reversed (k : SortKey) : k.reversed.compare l a b = (k.compare l a b).swap := by
  obtain ⟨field, direction⟩ := k
  cases direction with
  | ascending => rfl
  | descending => exact Ordering.swap_swap.symm

end SortKey

namespace SortOrder

/-- The order whose last key comes first. -/
def backwards (o : SortOrder) : SortOrder :=
  ⟨o.keys.reverse, by
    rw [List.map_reverse]
    exact List.pairwise_reverse.2 (o.nodup.imp Ne.symm)⟩

theorem keys_reversed (o : SortOrder) : o.reversed.keys = o.backwards.keys.map SortKey.reversed :=
  List.map_reverse.symm

theorem backwards_of_length_le {o : SortOrder} (h : o.keys.length ≤ 1) : o.backwards = o := by
  match o, h with
  | ⟨[], _⟩, _ => rfl
  | ⟨[_], _⟩, _ => rfl

/-! ### Comparing -/

theorem compareBy_reversed (ks : List SortKey) :
    compareBy l a b (ks.map SortKey.reversed) = (compareBy l a b ks).swap := by
  induction ks with
  | nil => rfl
  | cons k ks ih => simp only [List.map_cons, compareBy, k.compare_reversed, ih, Ordering.swap_then]

/-- The reversed order is the opposite of the order that starts from the last key. -/
theorem compare_reversed (o : SortOrder) :
    o.reversed.compare l a b = (o.backwards.compare l a b).swap := by
  rw [SortOrder.compare, keys_reversed, compareBy_reversed]
  rfl

/-- Articles tie if no key tells them apart. -/
theorem compareBy_eq_eq_iff {ks : List SortKey} :
    compareBy l a b ks = .eq ↔ ∀ k ∈ ks, k.compare l a b = .eq := by
  induction ks with
  | nil => simp [compareBy]
  | cons k ks ih => simp [compareBy, Ordering.then_eq_eq, ih]

theorem compare_backwards_eq_eq_iff {o : SortOrder} :
    o.backwards.compare l a b = .eq ↔ o.compare l a b = .eq := by
  simp only [SortOrder.compare, compareBy_eq_eq_iff, backwards, List.mem_reverse]

/-! ### Sorting -/

theorem pairwise_sort {o : SortOrder} {articles : List Article}
    (distinct : articles.Pairwise fun a b => o.compare l a b ≠ .eq) :
    (o.sort l articles).Pairwise fun a b => o.compare l a b = .lt := by
  have sorted := isStableSort_sort l o articles
  have apart : (o.sort l articles).Pairwise fun a b => o.compare l a b ≠ .eq := by
    refine sorted.perm.symm.pairwise distinct fun {a b} different => ?_
    rwa [Ne, Std.OrientedCmp.eq_comm]
  exact (sorted.ordered.and apart).imp fun ⟨ordered, apart⟩ =>
    (Ordering.isLE_iff_eq_lt_or_eq_eq.1 ordered).resolve_right apart

theorem sort_eq_self {o : SortOrder} {articles : List Article}
    (ordered : articles.Pairwise fun a b => o.compare l a b != .gt) :
    o.sort l articles = articles :=
  List.mergeSort_of_pairwise ordered

/-- Without ties, an order whose comparison is the opposite gives the reverse of the list. -/
theorem sort_eq_reverse_sort {o p : SortOrder} {articles : List Article}
    (opposite : ∀ a b, p.compare l a b = (o.compare l a b).swap)
    (distinct : articles.Pairwise fun a b => o.compare l a b ≠ .eq) :
    p.sort l articles = (o.sort l articles).reverse := by
  have apart : articles.Pairwise fun a b => p.compare l a b ≠ .eq :=
    distinct.imp fun different => by rwa [opposite, Ne, Ordering.swap_eq_eq]
  have before : (o.sort l articles).reverse.Pairwise fun a b => p.compare l a b = .lt := by
    refine List.pairwise_reverse.2 ((pairwise_sort distinct).imp fun {a b} lt => ?_)
    have swapped : o.compare l b a = (o.compare l a b).swap := Std.OrientedCmp.eq_swap
    rw [opposite, swapped, Ordering.swap_swap, lt]
  -- both lists hold the same articles, and in both an article comes before all the later ones
  have same : (p.sort l articles).Perm (o.sort l articles).reverse :=
    (List.mergeSort_perm articles _).trans
      ((List.mergeSort_perm articles _).symm.trans (List.reverse_perm _).symm)
  refine same.eq_of_pairwise (fun a b _ _ first second => ?_) (pairwise_sort apart) before
  have swapped : p.compare l a b = (p.compare l b a).swap := Std.OrientedCmp.eq_swap
  rw [swapped, second] at first
  exact absurd first nofun

/-! ### Articles for every comparison -/

/-- A library with two feeds. -/
def twoFeeds : Library where
  feeds := [⟨['a'], ['A'], none, none⟩, ⟨['b'], ['B'], none, none⟩]
  tags := []
  taggings := []

theorem toNat_lt_calendar (b : Bool) : b.toNat < Date.dayCount * Duration.day := by
  cases b <;> decide

/-- An article of this library, which comes second by the given fields and first by the others. -/
def second (fields : SortField → Bool) : Article where
  id := []
  feed := cond (fields .feed) ['b'] ['a']
  date := .ofUtc ⟨(!fields .date).toNat, toNat_lt_calendar _⟩
  synced := .ofUtc ⟨(!fields .synced).toNat, toNat_lt_calendar _⟩
  title := cond (fields .title) (some ['t']) none
  summary := none
  author := cond (fields .author) (some ['t']) none
  url := none
  read := .unread
  mark := .unmarked

theorem compareField_second (p q : SortField → Bool) (f : SortField) :
    SortKey.compareField twoFeeds (second p) (second q) f = Ord.compare (p f) (q f) := by
  -- the comparison by a field looks at this field only
  have own : SortKey.compareField twoFeeds (second p) (second q) f =
      SortKey.compareField twoFeeds (second fun _ => p f) (second fun _ => q f) f := by
    cases f <;> rfl
  rw [own]
  cases p f <;> cases q f <;> cases f <;> decide

/-- Each field of two articles can compare in each way. -/
theorem exists_compareField (result : SortField → Ordering) :
    ∃ l a b, ∀ f, SortKey.compareField l a b f = result f := by
  refine ⟨twoFeeds, second (result · = .gt), second (result · = .lt), fun f => ?_⟩
  rw [compareField_second]
  cases result f <;> rfl

/-- With more than one key, there are articles that are in one order by the first key and in the
other by the last key. -/
theorem exists_compare_backwards_ne {o : SortOrder} (more : 1 < o.keys.length) :
    ∃ l a b, o.compare l a b = .lt ∧ o.backwards.compare l a b = .gt := by
  obtain ⟨k, keys, first⟩ := List.exists_cons_of_length_pos (Nat.zero_lt_of_lt more)
  obtain ⟨middle, k', last⟩ := (List.eq_nil_or_concat keys).resolve_left fun none => by
    simp [first, none] at more
  rw [last, List.concat_eq_append] at first
  have apart : k.field ≠ k'.field := by
    have nodup := o.nodup
    simp only [first, List.map_cons, List.map_append, List.map_nil, List.nodup_cons] at nodup
    exact fun same => nodup.1 (by simp [same])
  obtain ⟨l, a, b, compared⟩ := exists_compareField fun f =>
    if f = k.field then k.direction.apply .lt else k'.direction.apply .gt
  have lt : k.compare l a b = .lt := by
    rw [SortKey.compare, compared, if_pos rfl, SortDirection.apply_apply]
  have gt : k'.compare l a b = .gt := by
    rw [SortKey.compare, compared, if_neg apart.symm, SortDirection.apply_apply]
  exact ⟨l, a, b, by simp [SortOrder.compare, first, compareBy, lt],
    by simp [SortOrder.compare, backwards, first, compareBy, gt]⟩

/-! ### Reversed orders -/

/-- The reversed order is the opposite of an order only if this has at most one key. -/
theorem opposite_iff {o : SortOrder} :
    (∀ l a b, o.reversed.compare l a b = (o.compare l a b).swap) ↔ o.keys.length ≤ 1 := by
  constructor
  · intro opposite
    refine Nat.not_lt.1 fun more => ?_
    obtain ⟨l, a, b, lt, gt⟩ := exists_compare_backwards_ne more
    have same := opposite l a b
    rw [compare_reversed, lt, gt] at same
    exact absurd same nofun
  · intro short l a b
    rw [compare_reversed, backwards_of_length_le short]

/-- The reversed order gives the reverse of the list that is sorted from the last key on, and ties
where the order itself does. It is the opposite of the order itself exactly if there is at most one
key. -/
theorem sort_reversed (o : SortOrder) :
    (∀ l a b, o.reversed.compare l a b = (o.backwards.compare l a b).swap) ∧
      (∀ l a b, o.reversed.compare l a b = .eq ↔ o.compare l a b = .eq) ∧
      (∀ l (articles : List Article), (articles.Pairwise fun a b => o.compare l a b ≠ .eq) →
        o.reversed.sort l articles = (o.backwards.sort l articles).reverse) ∧
      ((∀ l a b, o.reversed.compare l a b = (o.compare l a b).swap) ↔ o.keys.length ≤ 1) ∧
      (o.keys.length ≤ 1 → ∀ l (articles : List Article),
        (articles.Pairwise fun a b => o.compare l a b ≠ .eq) →
        o.reversed.sort l articles = (o.sort l articles).reverse) := by
  have sorted (l : Library) (articles : List Article)
      (distinct : articles.Pairwise fun a b => o.compare l a b ≠ .eq) :
      o.reversed.sort l articles = (o.backwards.sort l articles).reverse :=
    sort_eq_reverse_sort (fun _ _ => o.compare_reversed)
      (distinct.imp fun apart tie => apart (compare_backwards_eq_eq_iff.1 tie))
  refine ⟨fun _ _ _ => o.compare_reversed, fun l a b => ?_, sorted, opposite_iff,
    fun short l articles distinct => ?_⟩
  · rw [compare_reversed, Ordering.swap_eq_eq, compare_backwards_eq_eq_iff]
  · rw [sorted l articles distinct, backwards_of_length_le short]

/-- Two articles by their titles. -/
theorem sort_reversed_title :
    let o : SortOrder := ⟨[⟨.title, .ascending⟩], by decide⟩
    let a := second fun _ => false
    let b := second fun _ => true
    o.keys.length ≤ 1 ∧ ([a, b].Pairwise fun a b => o.compare .empty a b ≠ .eq) ∧
      o.reversed.sort .empty [a, b] = [b, a] := by
  intro o a b
  have short : o.keys.length ≤ 1 := by decide
  have distinct : [a, b].Pairwise fun a b => o.compare .empty a b ≠ .eq := by decide
  obtain ⟨-, -, -, -, sorted⟩ := o.sort_reversed
  refine ⟨short, distinct, ?_⟩
  rw [sorted short .empty _ distinct, sort_eq_self (by decide)]
  rfl

/-- Articles that come in one order by the title and in the other by the author are sorted alike by
both keys and by the reversed keys. -/
theorem not_sort_reversed :
    let o : SortOrder := ⟨[⟨.title, .ascending⟩, ⟨.author, .ascending⟩], by decide⟩
    let a := second (· = .author)
    let b := second (· = .title)
    o.reversed.compare .empty a b ≠ (o.compare .empty a b).swap ∧
      ([a, b].Pairwise fun a b => o.compare .empty a b ≠ .eq) ∧
      o.reversed.sort .empty [a, b] ≠ (o.sort .empty [a, b]).reverse := by
  intro o a b
  refine ⟨by decide, by decide, ?_⟩
  rw [sort_eq_self (by decide), sort_eq_self (by decide)]
  decide

end SortOrder

end FeedReader
