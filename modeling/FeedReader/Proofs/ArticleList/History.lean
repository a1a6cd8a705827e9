import FeedReader.ArticleList
import FeedReader.Proofs.Command.RoundTrip
import FeedReader.Proofs.Query.Pushdown
import Mathlib.Algebra.Ring.Parity
import Mathlib.Data.List.DropRight

/-!
# The article list and the commands before

After commands have been applied one after the other, the state of the list is told by those of them
that concern it.

* `ArticleList.apply`, `ArticleList.applyAll`: applying commands;
* `Change`, `Change.ofCommand?`: what a command changes in the list;
* `Change.since`: what has happened since the last change of a kind;
* `Follows`: states that are told by a history of changes, and one lemma for each change;
* `apply_turns`: a command that has been read is applied, and makes its change;
* `Follows.applyAll`, `applyAll_follows`.
-/

namespace FeedReader

/-- The query that a command gives the list is read again from its text. -/
theorem Command.read_query_of_read {mode : Mode} {now : Moment} {t : Text} {c : Command}
    {kind : Kind} {shape : kind.shape = .query} {q : Query} (h : read mode now t = .ok c)
    (unwrapped : c.unwrapIn .articles = some (.onQuery kind shape q)) :
    Query.read q.text now = .ok q := by
  -- such a command has no address in it, so that all its arguments are read again
  unfold unwrapIn at unwrapped
  split at unwrapped
  · split at unwrapped
    · obtain rfl := Option.some.inj unwrapped
      exact readQuery_eq_ok.1 (canonical_of_read h (by simp [addresses])).2
    · exact (Option.some_ne_none _ unwrapped.symm).elim
  · obtain rfl := Option.some.inj unwrapped
    exact readQuery_eq_ok.1 (canonical_of_read h (by simp [addresses])).2

namespace ArticleList

/-! ### Applying commands -/

/-- Applies a command: whether it concerns the list, and the list after it, which is the same one if
it does not. -/
def apply (l : ArticleList) (now : Moment) (c : Command) : Query.Result (Bool × ArticleList) :=
  (l.run now c).map fun changed => (changed.isSome, changed.getD l)

/-- Applies commands one after the other. -/
def applyAll (l : ArticleList) (now : Moment) :
    List Command → Query.Result (List Bool × ArticleList)
  | [] => .ok ([], l)
  | c :: cs => do
    let (concerned, l) ← l.apply now c
    let (rest, l) ← applyAll l now cs
    return (concerned :: rest, l)

/-! ### Changes -/

/-- What a command changes in the list. -/
inductive Change
  | sort (order : SortOrder)
  | reverse
  | clearSort
  | filter (query : Query)
  | applyFilter
  | clearFilter
  | query (text : Text)
  | scope (scope : ArticleScope)
  deriving DecidableEq

namespace Change

/-- What a command that stands alone changes. -/
def ofPlain? : Command → Option Change
  | .sort o => some (.sort o)
  | .plain .reverseSort _ => some .reverse
  | .plain .clearSort _ => some .clearSort
  | .onQuery .setFilter _ q => some (.filter q)
  | .plain .applyFilter _ => some .applyFilter
  | .plain .clearFilter _ => some .clearFilter
  | .onQuery .query _ q => some (.query q.text)
  | .showArticles target s => if target = .feeds then none else some (.scope s)
  | _ => none

/-- What a command changes, which may also be meant for the panel of the list. -/
def ofCommand? : Command → Option Change
  | .within panel c => if panel = .articles then ofPlain? c else none
  | c => ofPlain? c

/-- The user's own order. -/
def order? : Change → Option SortOrder
  | sort o => some o
  | _ => none

/-- The user's own filter. -/
def filter? : Change → Option Query
  | filter q => some q
  | _ => none

/-- The text of a query that is selected. -/
def query? : Change → Option Text
  | query t => some t
  | _ => none

/-- The scope that is shown. -/
def scope? : Change → Option ArticleScope
  | scope s => some s
  | _ => none

/-- Whether it settles if the user's own filter is applied. -/
def settlesFiltering : Change → Bool
  | filter _ | applyFilter | clearFilter | query _ => true
  | _ => false

/-- What a change makes of the list. -/
inductive Turns (now : Moment) : Change → ArticleList → ArticleList → Prop
  | sort (l : ArticleList) (o : SortOrder) : Turns now (.sort o) l { l with ownOrder := some o }
  | reverse (l : ArticleList) : Turns now .reverse l { l with reversed := !l.reversed }
  | clearSort (l : ArticleList) :
    Turns now .clearSort l { l with ownOrder := none, reversed := false }
  | filter (l : ArticleList) (q : Query) :
    Turns now (.filter q) l { l with ownFilter := some q, filtering := true }
  | applyFilter (l : ArticleList) :
    Turns now .applyFilter l { l with filtering := l.ownFilter.isSome }
  | clearFilter (l : ArticleList) :
    Turns now .clearFilter l { l with ownFilter := none, filtering := false }
  | query {l : ArticleList} {t : Text} {split : SplitQuery}
    (read : SplitQuery.read t now = .ok split) : Turns now (.query t) l (l.select split)
  | scope (l : ArticleList) (s : ArticleScope) : Turns now (.scope s) l { l with scope := s }

/-- The changes since the last one that is `x`, or all of them. -/
def since (x : Change) (h : List Change) : List Change := h.rtakeWhile (· ≠ x)

theorem since_concat (x y : Change) (h : List Change) :
    since x (h ++ [y]) = if y = x then [] else since x h ++ [y] := by
  rw [since, List.rtakeWhile_concat]
  by_cases same : y = x <;> simp [since, same]

end Change

/-! ### Histories -/

/-- Whether a list that began with an order and a scope is told by the changes since: the user's own
order is the last one since orders were cleared, and it is reversed if it has been an odd number of
times since then; the user's own filter is the last one since it was cleared; the selected query is
the last one, taken apart; the scope is the last one shown; and the user's own filter is applied if
the last change about that was a new filter, or was applying one that there is. -/
structure Follows (order : SortOrder) (scope : ArticleScope) (now : Moment) (h : List Change)
    (l : ArticleList) : Prop where
  defaultOrder : l.defaultOrder = order
  ownOrder : l.ownOrder = ((Change.since .clearSort h).filterMap Change.order?).getLast?
  reversed : l.reversed = decide (Odd ((Change.since .clearSort h).count .reverse))
  ownFilter : l.ownFilter = ((Change.since .clearFilter h).filterMap Change.filter?).getLast?
  selected : l.selected.map .ok =
    (h.filterMap Change.query?).getLast?.map fun t => SplitQuery.read t now
  scope : l.scope = ((h.filterMap Change.scope?).getLast?).getD scope
  filtering : l.filtering = match (h.filter Change.settlesFiltering).getLast? with
    | some (.filter _) => true
    | some .applyFilter => l.ownFilter.isSome
    | _ => false

namespace Follows

variable {order : SortOrder} {scope : ArticleScope} {now : Moment} {h : List Change}
  {l : ArticleList}

theorem start (order : SortOrder) (scope : ArticleScope) (now : Moment) :
    Follows order scope now [] { defaultOrder := order, scope := scope } := by
  constructor <;> simp [Change.since]

/-- A change adds to the history. What it does not settle stays told by the changes before. -/
theorem concat {x : Change} {l' : ArticleList} (f : Follows order scope now h l)
    (turns : x.Turns now l l') : Follows order scope now (h ++ [x]) l' where
  defaultOrder := by cases turns <;> exact f.defaultOrder
  ownOrder := by
    cases turns <;> simp [select, Change.since_concat, Change.order?, f.ownOrder]
  reversed := by
    cases turns with
    | reverse =>
      have more : (Change.since .clearSort (h ++ [.reverse])).count .reverse =
          (Change.since .clearSort h).count .reverse + 1 := by simp [Change.since_concat]
      rw [more, f.reversed]
      simp only [Nat.odd_add_one, decide_not]
    | _ => simp [select, Change.since_concat, f.reversed]
  ownFilter := by
    cases turns <;> simp [select, Change.since_concat, Change.filter?, f.ownFilter]
  selected := by
    cases turns with
    | query read => simp [select, Change.query?, read]
    | _ => simp [Change.query?, f.selected]
  scope := by cases turns <;> simp [select, Change.scope?, f.scope]
  filtering := by cases turns <;> simp [select, Change.settlesFiltering, f.filtering]

end Follows

/-! ### Commands that have been read -/

variable {now : Moment} {l : ArticleList} {c : Command}

/-- A command that stands alone makes its change, and none if it does not concern the list. -/
theorem execute_turns (query : ∀ kind shape q, c = .onQuery kind shape q →
      ∃ split, SplitQuery.read q.text now = .ok split) :
    (Change.ofPlain? c = none ∧ l.execute now c = .ok none) ∨
      ∃ x l', Change.ofPlain? c = some x ∧ l.execute now c = .ok (some l') ∧ x.Turns now l l' := by
  fun_cases Change.ofPlain? c with
  | case1 o => exact .inr ⟨_, _, rfl, rfl, .sort l o⟩
  | case2 => exact .inr ⟨_, _, rfl, rfl, .reverse l⟩
  | case3 => exact .inr ⟨_, _, rfl, rfl, .clearSort l⟩
  | case4 shape q => exact .inr ⟨_, _, rfl, rfl, .filter l q⟩
  | case5 => exact .inr ⟨_, _, rfl, rfl, .applyFilter l⟩
  | case6 => exact .inr ⟨_, _, rfl, rfl, .clearFilter l⟩
  | case7 shape q =>
    obtain ⟨split, read⟩ := query .query shape q rfl
    exact .inr ⟨_, _, rfl, by simp only [execute, read, Except.map], .query read⟩
  | case8 s => exact .inl ⟨rfl, rfl⟩
  | case9 target s other => exact .inr ⟨_, _, rfl, by simp only [execute, if_neg other], .scope l s⟩
  | case10 =>
    refine .inl ⟨rfl, ?_⟩
    unfold execute
    split <;> simp_all

theorem ofCommand?_eq (c : Command) :
    Change.ofCommand? c = (c.unwrapIn .articles).bind Change.ofPlain? := by
  cases c with
  | within panel d =>
    rw [Change.ofCommand?, Command.unwrapIn]
    split <;> rfl
  | _ => rfl

/-- A command that has been read is applied. It makes its change, and leaves the list as it is if it
has none. -/
theorem apply_turns (l : ArticleList) (read : ∃ mode t, Command.read mode now t = .ok c) :
    (Change.ofCommand? c = none ∧ l.apply now c = .ok (false, l)) ∨
      ∃ x l', Change.ofCommand? c = some x ∧ l.apply now c = .ok (true, l') ∧
        x.Turns now l l' := by
  obtain ⟨mode, t, read⟩ := read
  simp only [ofCommand?_eq, apply, run]
  cases inner : c.unwrapIn .articles with
  | none => exact .inl ⟨rfl, rfl⟩
  | some d =>
    have query : ∀ kind shape q, d = .onQuery kind shape q →
        ∃ split, SplitQuery.read q.text now = .ok split := by
      rintro kind shape q rfl
      exact SplitQuery.exists_read (Command.read_query_of_read read inner)
    rcases execute_turns (l := l) query with ⟨idle, same⟩ | ⟨x, l', change, made, turns⟩
    · exact .inl ⟨idle, by simp only [same]; rfl⟩
    · exact .inr ⟨x, l', change, by simp only [made]; rfl, turns⟩

/-- Commands that have been read are all applied, and their changes add to the history. -/
theorem Follows.applyAll {order : SortOrder} {scope : ArticleScope} {h : List Change}
    (f : Follows order scope now h l) {cs : List Command}
    (read : ∀ c ∈ cs, ∃ mode t, Command.read mode now t = .ok c) :
    ∃ l', l.applyAll now cs = .ok (cs.map fun c => (Change.ofCommand? c).isSome, l') ∧
      Follows order scope now (h ++ cs.filterMap Change.ofCommand?) l' := by
  induction cs generalizing h l with
  | nil => exact ⟨l, rfl, by simpa using f⟩
  | cons c cs ih =>
    obtain ⟨head, tail⟩ := List.forall_mem_cons.1 read
    rcases apply_turns l head with ⟨idle, applied⟩ | ⟨x, l', change, applied, turns⟩
    · obtain ⟨l'', rest, told⟩ := ih f tail
      refine ⟨l'', ?_, by simpa [idle] using told⟩
      simp only [ArticleList.applyAll, applied, bind, Except.bind, rest, List.map_cons, idle]
      rfl
    · obtain ⟨l'', rest, told⟩ := ih (f.concat turns) tail
      refine ⟨l'', ?_, by simpa [change] using told⟩
      simp only [ArticleList.applyAll, applied, bind, Except.bind, rest, List.map_cons, change]
      rfl

/-- Commands that have been read are all applied, those that change nothing leave the list as it is,
and then it is told by the changes one after the other. -/
theorem applyAll_follows (order : SortOrder) (scope : ArticleScope) (cs : List Command)
    (read : ∀ c ∈ cs, ∃ mode t, Command.read mode now t = .ok c) :
    (∃ l, applyAll { defaultOrder := order, scope := scope } now cs =
        .ok (cs.map fun c => (Change.ofCommand? c).isSome, l) ∧
      Follows order scope now (cs.filterMap Change.ofCommand?) l) ∧
    ∀ l : ArticleList, ∀ c ∈ cs, Change.ofCommand? c = none → l.apply now c = .ok (false, l) := by
  constructor
  · exact (Follows.start order scope now).applyAll read
  · intro l c hc idle
    rcases apply_turns l (read c hc) with ⟨-, applied⟩ | ⟨x, l', change, -⟩
    · exact applied
    · exact absurd (idle.symm.trans change) nofun

/-- A query suspends the user's own filter until it is applied again, and a command that is meant
for another panel changes nothing. -/
theorem applyAll_follows_suspended :
    let own : Query := ⟨"rust", [⟨.field .all (.word "rust"), false⟩], none⟩
    let cs : List Command :=
      [.onQuery .setFilter rfl own,
        .within .articles (.onQuery .query rfl ⟨"unread", [⟨.read .unread, false⟩], none⟩),
        .within .feeds (.plain .reverseSort rfl), .plain .applyFilter rfl]
    ∃ l, applyAll {} (.ofUtc ⟨0, by decide⟩) cs = .ok ([true, true, false, true], l) ∧
      l.ownFilter = some own ∧ l.filtering = true ∧ l.reversed = false := by
  intro own cs
  have read : ∀ c ∈ cs, ∃ mode t, Command.read mode (.ofUtc ⟨0, by decide⟩) t = .ok c := by
    simp only [cs, List.forall_mem_cons]
    refine ⟨⟨.eager, "filter rust", ?_⟩, ⟨.eager, "in articles query unread", ?_⟩,
      ⟨.eager, "in feeds sortreverse", ?_⟩, ⟨.lenient, "filterapply now", ?_⟩,
      List.forall_mem_nil _⟩ <;>
      decide +kernel
  obtain ⟨⟨l, applied, told⟩, -⟩ := applyAll_follows .empty .all cs read
  have filter : l.ownFilter = some own := told.ownFilter
  refine ⟨l, applied, filter, ?_, told.reversed.trans (by decide)⟩
  rw [told.filtering.trans (show _ = l.ownFilter.isSome from rfl), filter]
  rfl

end ArticleList

end FeedReader
