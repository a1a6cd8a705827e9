/-!
# Lists sorted by a comparison

* `transCmp_on`: comparing by something about the entries;
* `pairwise_sort`: a sorted list is in order;
* `IsStableSort`: a list sorted in such a way that entries which compare equal keep their order, and
  `isStableSort_mergeSort`;
* `eq_of_ordered`, `IsStableSort.unique`: there is only one such list;
* `filter_mergeSort`: entries may be left out before or after sorting.
-/

namespace FeedReader

variable {α : Type} {cmp : α → α → Ordering}

theorem isLE_eq_ne_gt (o : Ordering) : (o != .gt) = o.isLE := by cases o <;> rfl

/-- Entries compared by something about them. -/
theorem transCmp_on {β : Type} (cmp : α → α → Ordering) [Std.TransCmp cmp] (f : β → α) :
    Std.TransCmp fun a b => cmp (f a) (f b) where
  eq_swap := Std.OrientedCmp.eq_swap
  isLE_trans := Std.TransCmp.isLE_trans

theorem isLE_total [Std.OrientedCmp cmp] (a b : α) : (cmp a b).isLE || (cmp b a).isLE := by
  have swap : cmp b a = (cmp a b).swap := Std.OrientedCmp.eq_swap
  rw [swap]
  cases cmp a b <;> rfl

theorem pairwise_sort [Std.TransCmp cmp] (l : List α) :
    (l.mergeSort fun a b => cmp a b != .gt).Pairwise fun a b => (cmp a b).isLE := by
  simp only [isLE_eq_ne_gt]
  exact List.pairwise_mergeSort (fun a b c => Std.TransCmp.isLE_trans) isLE_total l

/-! ### Stable sorting -/

/-- Whether a list is another one in order, where entries that compare equal keep their order. -/
structure IsStableSort (cmp : α → α → Ordering) (l sorted : List α) : Prop where
  perm : sorted.Perm l
  ordered : sorted.Pairwise fun a b => (cmp a b).isLE
  stable : ∀ a, sorted.filter (cmp a · = .eq) = l.filter (cmp a · = .eq)

theorem isStableSort_mergeSort [Std.TransCmp cmp] (l : List α) :
    IsStableSort cmp l (l.mergeSort fun a b => cmp a b != .gt) where
  perm := List.mergeSort_perm l _
  ordered := pairwise_sort l
  stable := by
    intro a
    simp only [isLE_eq_ne_gt]
    -- the entries that compare equal to one are in order already, so that sorting leaves them
    have ties : (l.filter (cmp a · = .eq)).Pairwise fun b c => (cmp b c).isLE := by
      refine List.pairwise_of_forall_mem_list fun b hb c hc => ?_
      have hb : cmp a b = .eq := by simpa using (List.mem_filter.1 hb).2
      have hc : cmp a c = .eq := by simpa using (List.mem_filter.1 hc).2
      rw [← Std.TransCmp.congr_left hb, hc]
      rfl
    have kept : (l.filter (cmp a · = .eq)).Sublist (l.mergeSort fun b c => (cmp b c).isLE) :=
      List.sublist_mergeSort (fun a b c => Std.TransCmp.isLE_trans) isLE_total ties
        List.filter_sublist
    have inside := kept.filter (cmp a · = .eq)
    rw [List.filter_filter] at inside
    simp only [Bool.and_self] at inside
    refine (inside.eq_of_length ?_).symm
    exact ((List.mergeSort_perm l _).filter _).length_eq.symm

theorem eq_of_isLE [Std.OrientedCmp cmp] {a b : α} (h : (cmp a b).isLE) (h' : (cmp b a).isLE) :
    cmp a b = .eq := by
  have swap : cmp b a = (cmp a b).swap := Std.OrientedCmp.eq_swap
  rw [swap] at h'
  cases order : cmp a b with
  | eq => rfl
  | lt => simp [order] at h'
  | gt => simp [order] at h

/-- Two ordered lists of the same entries are equal if ties stand in the same order in both. -/
theorem eq_of_ordered [Std.TransCmp cmp] {s t : List α} (perm : s.Perm t)
    (hs : s.Pairwise fun a b => (cmp a b).isLE) (ht : t.Pairwise fun a b => (cmp a b).isLE)
    (ties : ∀ a, s.filter (cmp a · = .eq) = t.filter (cmp a · = .eq)) : s = t := by
  induction s generalizing t with
  | nil => exact perm.nil_eq
  | cons a s ih =>
    cases t with
    | nil => exact absurd perm.symm.nil_eq (List.cons_ne_nil a s).symm
    | cons b t =>
      have self : ∀ a, cmp a a = .eq := fun _ => Std.ReflCmp.compare_self
      -- each of the first entries comes before the other one, so that they tie
      have before : (cmp a b).isLE := by
        rcases List.mem_cons.1 (perm.mem_iff.2 List.mem_cons_self) with rfl | hb
        · simp [self]
        · exact List.rel_of_pairwise_cons hs hb
      have after : (cmp b a).isLE := by
        rcases List.mem_cons.1 (perm.mem_iff.1 List.mem_cons_self) with rfl | ha
        · simp [self]
        · exact List.rel_of_pairwise_cons ht ha
      have tie : cmp a b = .eq := eq_of_isLE before after
      obtain rfl : a = b := by
        have first := ties a
        rw [List.filter_cons_of_pos (by simp [self]), List.filter_cons_of_pos (by simp [tie])]
          at first
        exact (List.cons.inj first).1
      congr 1
      refine ih perm.cons_inv hs.of_cons ht.of_cons fun c => ?_
      have others := ties c
      simp only [List.filter_cons] at others
      split at others
      · exact (List.cons.inj others).2
      · exact others

/-- There is only one stable sort of a list. -/
theorem IsStableSort.unique [Std.TransCmp cmp] {l s t : List α} (hs : IsStableSort cmp l s)
    (ht : IsStableSort cmp l t) : s = t :=
  eq_of_ordered (hs.perm.trans ht.perm.symm) hs.ordered ht.ordered fun a =>
    (hs.stable a).trans (ht.stable a).symm

theorem IsStableSort.filter {l sorted : List α} (h : IsStableSort cmp l sorted) (p : α → Bool) :
    IsStableSort cmp (l.filter p) (sorted.filter p) where
  perm := h.perm.filter p
  ordered := h.ordered.filter p
  stable := by
    intro a
    have swap (m : List α) :
        (m.filter p).filter (cmp a · = .eq) = (m.filter (cmp a · = .eq)).filter p := by
      simp only [List.filter_filter, Bool.and_comm]
    rw [swap, h.stable, swap]

/-- Leaving entries out does not change the order of the others. -/
theorem filter_mergeSort [Std.TransCmp cmp] (l : List α) (p : α → Bool) :
    (l.filter p).mergeSort (fun a b => cmp a b != .gt) =
      (l.mergeSort fun a b => cmp a b != .gt).filter p :=
  (isStableSort_mergeSort _).unique ((isStableSort_mergeSort l).filter p)

end FeedReader
