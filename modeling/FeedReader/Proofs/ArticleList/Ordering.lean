import FeedReader.Proofs.ArticleList.History

/-!
# Where the order of the list comes from

The order of the list is the first one that there is of the user's own order, the order in the
user's own filter, the order of the selected query and the default order. Whether the default order
is in use is told without a look at the user's own filter.

* `OrderSource`, `ArticleList.TakesOrder`: where the order comes from;
* `exists_takesOrder`, `TakesOrder.unique`: it comes from one place;
* `usesDefaultOrder_iff`: when the default order is said to be in use;
* `usesDefaultOrder_applyAll`: what that says about the order after commands have been applied;
* `exists_usesDefaultOrder_ne`: it can be said of another order.
-/

namespace FeedReader

/-- Where the order of the list can come from. -/
inductive OrderSource
  | own
  | ownFilter
  | selected
  | default
  deriving DecidableEq

namespace ArticleList

/-- The order that counts before it may be reversed, and where it comes from. The order in the
user's own filter counts whether the filter is applied or not. -/
inductive TakesOrder (l : ArticleList) : OrderSource → SortOrder → Prop
  | own {o : SortOrder} (own : l.ownOrder = some o) : TakesOrder l .own o
  | ownFilter {q : Query} {o : SortOrder} (noOwn : l.ownOrder = none)
    (filter : l.ownFilter = some q) (sort : q.sort = some o) : TakesOrder l .ownFilter o
  | selected {q : SplitQuery} {o : SortOrder} (noOwn : l.ownOrder = none)
    (noFilter : ∀ q ∈ l.ownFilter, q.sort = none) (selected : l.selected = some q)
    (sort : q.residual.sort = some o) : TakesOrder l .selected o
  | default (noOwn : l.ownOrder = none) (noFilter : ∀ q ∈ l.ownFilter, q.sort = none)
    (noSelected : ∀ q ∈ l.selected, q.residual.sort = none) : TakesOrder l .default l.defaultOrder

variable {l : ArticleList}

theorem exists_takesOrder (l : ArticleList) : ∃ source, l.TakesOrder source l.chosenOrder := by
  unfold chosenOrder
  cases own : l.ownOrder with
  | some o => exact ⟨.own, .own own⟩
  | none =>
    cases filter : l.ownFilter.bind (·.sort) with
    | some o =>
      obtain ⟨q, found, sort⟩ := Option.bind_eq_some_iff.1 filter
      exact ⟨.ownFilter, .ownFilter own found sort⟩
    | none =>
      have noFilter : ∀ q ∈ l.ownFilter, q.sort = none := Option.bind_eq_none_iff.1 filter
      cases selected : l.selected.bind (·.residual.sort) with
      | some o =>
        obtain ⟨q, found, sort⟩ := Option.bind_eq_some_iff.1 selected
        exact ⟨.selected, .selected own noFilter found sort⟩
      | none => exact ⟨.default, .default own noFilter (Option.bind_eq_none_iff.1 selected)⟩

theorem TakesOrder.unique {source source' : OrderSource} {o o' : SortOrder}
    (h : l.TakesOrder source o) (h' : l.TakesOrder source' o') : source = source' ∧ o = o' := by
  cases h <;> cases h' <;> simp_all

theorem TakesOrder.eq_defaultOrder {o : SortOrder} (h : l.TakesOrder .default o) :
    o = l.defaultOrder := by
  cases h
  rfl

theorem TakesOrder.exists_ownFilter {o : SortOrder} (h : l.TakesOrder .ownFilter o) :
    ∃ q, l.ownFilter = some q ∧ q.sort = some o := by
  cases h with
  | ownFilter _ filter sort => exact ⟨_, filter, sort⟩

/-- The default order is said to be in use if neither the user nor the selected query gives an order
and the list is not reversed. -/
theorem usesDefaultOrder_iff : l.usesDefaultOrder = true ↔
    l.ownOrder = none ∧ (∀ q ∈ l.selected, q.residual.sort = none) ∧ l.reversed = false := by
  simp [usesDefaultOrder, and_assoc]

/-- That overlooks the user's own filter, whose order may be the one that counts. -/
theorem TakesOrder.usesDefaultOrder_iff {source : OrderSource} {o : SortOrder}
    (h : l.TakesOrder source o) : l.usesDefaultOrder = true ↔ l.reversed = false ∧
      (source = .default ∨ source = .ownFilter ∧ ∀ q ∈ l.selected, q.residual.sort = none) := by
  rw [ArticleList.usesDefaultOrder_iff]
  cases h with
  | own own => simp [own]
  | ownFilter noOwn => simp [noOwn, and_comm]
  | selected _ _ selected sort => simp [selected, sort]
  | default noOwn _ noSelected => simpa [noOwn] using fun _ => noSelected

/-- The order that the user's own filter gives, if there is one: the last filter since it was
cleared has it. -/
def Change.filterOrder? (h : List Change) : Option SortOrder :=
  (((since .clearFilter h).filterMap filter?).getLast?).bind (·.sort)

/-- After commands have been applied, the order of the list comes from one place. The default order
is said to be in use exactly if the list is not reversed and either the order comes from there, and
is the default order that the list began with, or it comes from the user's own filter and the
selected query gives none. So what is said is right if the user's own filter gives no order. -/
theorem usesDefaultOrder_applyAll {now : Moment} (order : SortOrder) (scope : ArticleScope)
    (cs : List Command) (read : ∀ c ∈ cs, ∃ mode t, Command.read mode now t = .ok c) :
    ∃ done l source o,
      applyAll { defaultOrder := order, scope := scope } now cs = .ok (done, l) ∧
      l.TakesOrder source o ∧
      (∀ source' o', l.TakesOrder source' o' → source' = source ∧ o' = o) ∧
      l.effectiveOrder = o.reverseIf l.reversed ∧ (source = .default → o = order) ∧
      (l.usesDefaultOrder = true ↔ l.reversed = false ∧
        (source = .default ∨ source = .ownFilter ∧ ∀ q ∈ l.selected, q.residual.sort = none)) ∧
      (l.usesDefaultOrder = true → l.effectiveOrder = o) ∧
      (Change.filterOrder? (cs.filterMap Change.ofCommand?) = none →
        (l.usesDefaultOrder = true ↔ source = .default ∧ l.reversed = false)) := by
  obtain ⟨l, applied, told⟩ := (Follows.start order scope now).applyAll read
  obtain ⟨source, takes⟩ := l.exists_takesOrder
  have uses := takes.usesDefaultOrder_iff
  refine ⟨_, l, source, l.chosenOrder, applied, takes, fun _ _ other => other.unique takes, rfl, ?_,
    uses, ?_, ?_⟩
  · rintro rfl
    exact takes.eq_defaultOrder.trans told.defaultOrder
  · intro used
    rw [effectiveOrder, (uses.1 used).1]
    rfl
  · intro unsorted
    rw [uses, and_comm]
    refine and_congr_left fun _ => or_iff_left ?_
    rintro ⟨rfl, -⟩
    obtain ⟨q, filter, sort⟩ := takes.exists_ownFilter
    rw [told.ownFilter, List.nil_append] at filter
    simp [Change.filterOrder?, filter, sort] at unsorted

/-- The order by one field. -/
def orderBy (f : SortField) : SortOrder := ⟨[⟨f, .ascending⟩], by simp⟩

/-- After a filter without an order has been set and an order has been set and cleared, the default
order is in use. -/
theorem usesDefaultOrder_applyAll_cleared :
    let cs : List Command :=
      [.onQuery .setFilter rfl ⟨"rust", [⟨.field .all (.word "rust"), false⟩], none⟩,
        .sort (orderBy .author), .plain .clearSort rfl]
    ∃ done l,
      applyAll { defaultOrder := orderBy .title } (.ofUtc ⟨0, by decide⟩) cs = .ok (done, l) ∧
      l.usesDefaultOrder = true ∧ l.effectiveOrder = orderBy .title := by
  intro cs
  have read : ∀ c ∈ cs, ∃ mode t, Command.read mode (.ofUtc ⟨0, by decide⟩) t = .ok c := by
    simp only [cs, List.forall_mem_cons]
    refine ⟨⟨.eager, "filter rust", ?_⟩, ⟨.eager, "sort author", ?_⟩, ⟨.eager, "sortclear", ?_⟩,
      List.forall_mem_nil _⟩ <;>
      decide +kernel
  obtain ⟨done, l, source, o, applied, takes, one, -, order, -, same, right⟩ :=
    usesDefaultOrder_applyAll (orderBy .title) .all cs read
  let q : Query := ⟨"rust", [⟨.field .all (.word "rust"), false⟩], none⟩
  have reached : applyAll { defaultOrder := orderBy .title } (.ofUtc ⟨0, by decide⟩) cs =
      .ok ([true, true, true],
        { defaultOrder := orderBy .title, ownFilter := some q, filtering := true }) := rfl
  obtain ⟨-, rfl⟩ := Prod.mk.inj (Except.ok.inj (reached.symm.trans applied))
  obtain ⟨rfl, -⟩ := one _ _ (.default rfl (by simp [q]) (by simp))
  have used := (right rfl).2 ⟨rfl, rfl⟩
  exact ⟨_, _, applied, used, (same used).trans (order rfl)⟩

/-- After a filter with an order has been set, the default order is said to be in use, but the list
is in the order of the filter. -/
theorem exists_usesDefaultOrder_ne :
    ∃ (c : Command) (l : ArticleList),
      Command.read .eager (.ofUtc ⟨0, by decide⟩) "filter sort:\"author\"" = .ok c ∧
      applyAll { defaultOrder := orderBy .title } (.ofUtc ⟨0, by decide⟩) [c] = .ok ([true], l) ∧
      l.usesDefaultOrder = true ∧ (¬∃ o, l.TakesOrder .default o) ∧
      l.effectiveOrder = orderBy .author ∧ l.effectiveOrder ≠ l.defaultOrder := by
  let q : Query := ⟨"sort:\"author\"", [], some (orderBy .author)⟩
  let l : ArticleList := { defaultOrder := orderBy .title, ownFilter := some q, filtering := true }
  have filter : l.TakesOrder .ownFilter (orderBy .author) := .ownFilter rfl rfl rfl
  refine ⟨.onQuery .setFilter rfl q, l, by decide +kernel, rfl, rfl, ?_, rfl, by decide⟩
  rintro ⟨o, takes⟩
  exact absurd (filter.unique takes).1 (by decide)

end ArticleList

end FeedReader
