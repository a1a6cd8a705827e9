import FeedReader.Proofs.SortOrder.Reversal

/-!
# Sorting gives the one stable arrangement

A sort order is a total preorder of the articles, and sorting by it gives the only list that is in
order and keeps ties in the order they had.

* `SortOrder.compareBy_append`: the keys in front decide unless they tie;
* `SortField.IsMissing`, `SortKey.compareField_missing`: missing texts and unknown feeds come first;
* `SortOrder.compare_missing`: they do in an order with an ascending key for them, if the keys before
  this one tie;
* `SortOrder.equivalence_tie`: to tie is an equivalence;
* `SortOrder.isStableSort_iff`.
-/

namespace FeedReader

variable {l : Library} {a b : Article}

/-! ### Missing values -/

/-- Whether an article has nothing in a field: no title, no author, or a feed that is not known. The
times of an article are never missing. -/
def SortField.IsMissing (l : Library) (a : Article) : SortField → Prop
  | .feed => l.feed? a.feed = none
  | .title => a.title = none
  | .author => a.author = none
  | .date => False
  | .synced => False

theorem Text.compareOption_missing {s t : Option Text} (hs : s = none) (ht : t ≠ none) :
    Text.compareOption s t = .lt := by
  subst hs
  cases t with
  | none => exact absurd rfl ht
  | some t => rfl

theorem SortKey.compareField_missing {f : SortField} (missing : f.IsMissing l a)
    (present : ¬ f.IsMissing l b) : SortKey.compareField l a b f = .lt := by
  cases f with
  | date => exact missing.elim
  | synced => exact missing.elim
  | feed | title | author =>
    apply Text.compareOption_missing
    · exact Option.map_eq_none_iff.2 missing
    · exact fun none => present (Option.map_eq_none_iff.1 none)

namespace SortOrder

/-! ### Comparing key by key -/

theorem compareBy_append (ks js : List SortKey) :
    compareBy l a b (ks ++ js) = (compareBy l a b ks).then (compareBy l a b js) := by
  induction ks with
  | nil => rfl
  | cons k ks ih => rw [List.cons_append, compareBy, compareBy, ih, Ordering.then_assoc]

/-- What is missing comes before what is there, if this is the first ascending key that tells the
articles apart. -/
theorem compare_missing {o : SortOrder} {before after : List SortKey} {k : SortKey}
    (keys : o.keys = before ++ k :: after) (ascending : k.direction = .ascending)
    (ties : ∀ j ∈ before, j.compare l a b = .eq) (missing : k.field.IsMissing l a)
    (present : ¬ k.field.IsMissing l b) : o.compare l a b = .lt := by
  have first : k.compare l a b = .lt := by
    rw [SortKey.compare, ascending]
    exact SortKey.compareField_missing missing present
  rw [SortOrder.compare, keys, compareBy_append, compareBy_eq_eq_iff.2 ties, compareBy,
    first]
  rfl

/-- To tie is an equivalence. -/
theorem equivalence_tie (o : SortOrder) (l : Library) :
    Equivalence fun a b => o.compare l a b = .eq where
  refl _ := Std.ReflCmp.compare_self
  symm tie := Std.OrientedCmp.eq_symm tie
  trans tie tie' := Std.TransCmp.eq_trans tie tie'

/-! ### Sorting -/

/-- A sort order is a total preorder of the articles: turning two of them around turns the result
around, to come not after is transitive, and to tie is an equivalence. Missing titles and authors
and unknown feeds come first by an ascending key. Sorting gives the one list of the same articles
that is in order and has ties in the order they had. -/
theorem isStableSort_iff (o : SortOrder) (l : Library) :
    (∀ a b, o.compare l b a = (o.compare l a b).swap) ∧
      (∀ a b c, (o.compare l a b).isLE → (o.compare l b c).isLE → (o.compare l a c).isLE) ∧
      Equivalence (fun a b => o.compare l a b = .eq) ∧
      (∀ before k after, o.keys = before ++ k :: after → k.direction = .ascending →
        ∀ a b, (∀ j ∈ before, j.compare l a b = .eq) → k.field.IsMissing l a →
          ¬ k.field.IsMissing l b → o.compare l a b = .lt) ∧
      ∀ articles sorted,
        IsStableSort (o.compare l) articles sorted ↔ sorted = o.sort l articles := by
  refine ⟨fun a b => Std.OrientedCmp.eq_swap, fun a b c => Std.TransCmp.isLE_trans,
    o.equivalence_tie l, ?_, fun articles sorted => ?_⟩
  · intro before k after keys ascending a b ties missing present
    exact compare_missing keys ascending ties missing present
  · constructor
    · intro stable
      exact stable.unique (isStableSort_sort l o articles)
    · rintro rfl
      exact isStableSort_sort l o articles

/-- Three articles of one title, of which only the last one has an author and the second one is older
than the others: the author decides, and the times are not looked at. -/
theorem isStableSort_iff_author :
    let o : SortOrder := ⟨[⟨.title, .descending⟩, ⟨.author, .ascending⟩], by decide⟩
    let a := second (· = .title)
    let b := second fun f => f = .title ∨ f = .date
    let c := second fun f => f = .title ∨ f = .author
    o.keys = [⟨.title, .descending⟩] ++ ⟨.author, .ascending⟩ :: [] ∧
      (∀ j ∈ [(⟨.title, .descending⟩ : SortKey)], j.compare .empty a c = .eq) ∧
      SortField.author.IsMissing .empty a ∧ ¬ SortField.author.IsMissing .empty c ∧
      o.compare .empty a c = .lt ∧ (o.compare .empty b a).isLE ∧ (o.compare .empty b c).isLE ∧
      IsStableSort (o.compare .empty) [c, b, a] [b, a, c] := by
  intro o a b c
  have ties : ∀ j ∈ [(⟨.title, .descending⟩ : SortKey)], j.compare .empty a c = .eq := by decide
  have missing : SortField.author.IsMissing .empty a := rfl
  have present : ¬ SortField.author.IsMissing .empty c := nofun
  have tie : (o.compare .empty b a).isLE := by decide
  obtain ⟨-, trans, -, first, sorts⟩ := isStableSort_iff o .empty
  have before : o.compare .empty a c = .lt :=
    first _ _ _ rfl rfl a c ties missing present
  refine ⟨rfl, ties, missing, present, before, tie, trans b a c tie (by simp [before]), ?_⟩
  have late : (o.compare .empty c b != .gt) = false := by decide
  have kept : (o.compare .empty b a != .gt) = true := by decide
  have last : (o.compare .empty c a != .gt) = false := by decide
  simp [sorts, SortOrder.sort, List.mergeSort, List.MergeSort.Internal.splitInTwo, late, kept, last]

end SortOrder

end FeedReader
