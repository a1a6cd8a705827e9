import FeedReader.Hint
import FeedReader.Proofs.Completion.Rotation
import Mathlib.Data.List.Nodup

/-!
# Cycling through what is offered

Cycling leads to all completions that a hint offers, as no hint but one offers a word twice: behind
a command that takes a target and a scope, both of them may be `.`, the current one. From there
cycling goes on as from the first of the two, so that it passes by some of the others.

* `nodup_expecting`: where the reader expects something, no word is offered twice;
* `targetOrScope`, `eq_or_nodup_of_ofLine`: the one hint that offers a word twice;
* `missed`, `reaches_targetOrScope_iff`: the words that cycling through it passes by;
* `reaches_targetOrScope`: it passes by none of those that go on from a letter;
* `reaches_iff`: what is reached in general.
-/

namespace FeedReader.Hint

open Completion

variable {now : Moment} {tags : List Tag} {shareTargets : List Text} {line typed : Text}
  {hint : Hint}

/-! ### Words that are offered once -/

theorem nodup_completable {entries : List Entry} (h : (entries.map (·.keyword)).Nodup) :
    (completable entries).Nodup :=
  h.filter _

theorem map_keyword_ofTags (tags : List Tag) :
    (Entry.ofTags tags).map (·.keyword) = tags.map (·.label) := by
  simp [Entry.ofTags]

theorem map_keyword_ofShareTargets (targets : List Text) :
    (Entry.ofShareTargets targets).map (·.keyword) = targets := by
  simp [Entry.ofShareTargets, Entry.plain, Function.comp_def]

theorem nodup_ofCommands : (Entry.ofCommands.map (·.keyword)).Nodup := by
  have injective : Function.Injective Command.Kind.keyword := fun j k same => by
    have found := congrArg Command.Kind.ofKeyword? same
    rw [Command.Kind.ofKeyword?_keyword, Command.Kind.ofKeyword?_keyword] at found
    exact Option.some.inj found
  have distinct : Command.Kind.list.Nodup := by decide
  rw [Entry.ofCommands, List.map_map]
  exact List.Nodup.map injective distinct

theorem nodup_ofQuery : (Entry.ofQuery.map (·.keyword)).Nodup := by
  have injective : Function.Injective Query.Keyword.literal := fun j k same =>
    Query.Keyword.eq_of_prefix (List.isPrefixOf_iff_prefix.2 (same ▸ List.prefix_rfl))
  have distinct : Query.Keyword.list.Nodup := by decide
  rw [Entry.ofQuery, List.map_map]
  exact List.Nodup.map injective distinct

theorem nodup_ofSortOrder : (Entry.ofSortOrder.map (·.keyword)).Nodup := by decide

theorem nodup_ofColors : (Entry.ofColors.map (·.keyword)).Nodup := by decide

/-- Where the reader expects something, no word is offered twice. -/
theorem nodup_expecting (labels : (tags.map (·.label)).Nodup) (distinct : shareTargets.Nodup)
    (typed : Text) (e : Command.Error) : (expecting typed tags shareTargets e).completions.Nodup := by
  cases e with
  | commandNameExpected _ | commandExpected => exact nodup_completable nodup_ofCommands
  | tagExpected => exact nodup_completable (by rwa [map_keyword_ofTags])
  | shareTargetExpected => exact nodup_completable (by rwa [map_keyword_ofShareTargets])
  | queryExpected _ => exact nodup_completable nodup_ofQuery
  | sortOrderExpected _ => exact nodup_completable nodup_ofSortOrder
  | colorExpected _ => exact nodup_completable nodup_ofColors
  | panelExpected _ | articleScopeExpected _ | targetOrArticleScopeExpected | positionExpected _
  | searchTermExpected _ | confirmationExpected => exact nodup_completable (by decide)
  | urlExpected _ | pathExpected | somethingExpected _ | nothingExpected _ =>
    exact List.nodup_nil

/-! ### Words that are offered twice -/

/-- What is offered behind a command that may go on with a target and a scope. -/
def targetOrScope : Hint := offering "Target or Scope" (Entry.ofTargets ++ Entry.ofScopes)

theorem eq_or_nodup_of_continuing? {shape : Command.Shape} {arguments : List Text}
    (h : continuing? shape arguments = some hint) :
    hint = targetOrScope ∨ hint.completions.Nodup := by
  unfold continuing? at h
  split at h
  case h_1 => exact .inl (Option.some.inj h).symm
  case h_2 =>
    split at h
    · obtain rfl := Option.some.inj h
      exact .inr (by decide)
    · cases h
  case h_5 =>
    obtain rfl := Option.some.inj h
    exact .inr (nodup_completable nodup_ofColors)
  case h_7 => cases h
  all_goals
    obtain rfl := Option.some.inj h
    exact .inr (by decide)

/-- Just one hint offers a word twice. -/
theorem eq_or_nodup_of_ofLine (labels : (tags.map (·.label)).Nodup) (distinct : shareTargets.Nodup)
    (h : ofLine now tags shareTargets line = .ok hint) :
    hint = targetOrScope ∨ hint.completions.Nodup := by
  unfold ofLine at h
  split at h
  next finished typed _ =>
  split at h
  · obtain rfl := Except.ok.inj h
    unfold afterCommand
    split
    · next kind rest _ =>
      cases found : continuing? kind.shape (Text.words rest) with
      | none => exact .inr List.nodup_nil
      | some hint => exact eq_or_nodup_of_continuing? found
    · exact .inr List.nodup_nil
  · next e _ =>
    obtain rfl := Except.ok.inj h
    exact .inr (nodup_expecting labels distinct typed e)
  · cases h

/-! ### Words that are passed by -/

/-- The targets and scopes that cycling passes by: going on, it comes to the scope `.`, and goes on
to the target that follows `.`; going back, it comes to the scope and goes back as from the
target. -/
def missed : Direction → List Text
  | .forward => ["%"]
  | .backward => ["feeds", "articles"]

/-- The words that cycling through targets and scopes stays among. -/
def kept : Direction → List Text
  | .forward => ["", ".", "feeds", "articles"]
  | .backward => ["", ".", "%"]

theorem reaches_targetOrScope_iff {c : Text} (hc : c ∈ targetOrScope.completions) (d : Direction) :
    Reaches targetOrScope.completions [] d c ↔ c ∉ missed d := by
  constructor
  · intro reached
    have closed : ∀ d, ∀ w ∈ kept d, step targetOrScope.completions [] d w ∈ kept d := by
      rintro (_ | _) <;> decide
    have start : [] ∈ kept d := by cases d <;> decide
    have apart : ∀ d, ∀ w ∈ kept d, w ∉ missed d := by rintro (_ | _) <;> decide
    exact apart d c (mem_of_reaches start (closed d) reached)
  · intro other
    have all : ∀ d, ∀ c ∈ targetOrScope.completions, c ∉ missed d →
        ∃ n ∈ List.range 4, (step targetOrScope.completions [] d)^[n] [] = c := by
      rintro (_ | _) <;> decide
    obtain ⟨n, -, reached⟩ := all d c hc other
    exact ⟨n, reached⟩

/-- With something typed, cycling through targets and scopes leads to all of them. -/
theorem reaches_targetOrScope (typed_ne : typed ≠ []) {c : Text}
    (hc : c ∈ candidates targetOrScope.completions typed) (d : Direction) :
    Reaches targetOrScope.completions typed d c := by
  by_cases current : typed <+: ['.']
  · -- `.` itself has been typed, and no other word starts with it
    obtain rfl : typed = ['.'] := by
      rcases List.prefix_cons_iff.1 current with empty | ⟨rest, rfl, empty⟩
      · exact absurd empty typed_ne
      · rw [List.prefix_nil.1 empty]
    have only : ∀ c ∈ candidates targetOrScope.completions ['.'], c = ['.'] := by decide
    exact ⟨0, (only c hc).symm⟩
  · have found : candidates targetOrScope.completions typed =
        candidates ["feeds", "articles", "%"] typed := by
      have offered : targetOrScope.completions = [".", "feeds", "articles", ".", "%"] := by decide
      have other : typed.isPrefixOf ['.'] = false := by
        rw [Bool.eq_false_iff, Ne, List.isPrefixOf_iff_prefix]
        exact current
      simp [candidates, offered, List.filter_cons, other]
    have nodup : (candidates targetOrScope.completions typed).Nodup := by
      rw [found]
      exact List.Nodup.filter _ (by decide)
    exact reaches_of_nodup nodup hc d

/-! ### What is reached -/

/-- Cycling leads to every word that a hint offers for what has been typed, in both directions. The
one exception is behind a command that may go on with a target and a scope, if nothing has been
typed: going on, cycling passes by all articles, and going back, by the targets other than the
current one. -/
theorem reaches_iff (labels : (tags.map (·.label)).Nodup) (distinct : shareTargets.Nodup)
    (h : ofLine now tags shareTargets line = .ok hint) :
    let typed := (Text.splitLast line).2
    ∀ c ∈ candidates hint.completions typed, ∀ d,
      Reaches hint.completions typed d c ↔
        ¬ (hint = targetOrScope ∧ typed = [] ∧ c ∈ missed d) := by
  intro typed c hc d
  by_cases twice : hint = targetOrScope
  · subst twice
    by_cases nothing : typed = []
    · rw [nothing] at hc ⊢
      have offered : c ∈ targetOrScope.completions := (List.mem_filter.1 hc).1
      simpa using reaches_targetOrScope_iff offered d
    · exact iff_of_true (reaches_targetOrScope nothing hc d) fun missed => nothing missed.2.1
  · have nodup := (eq_or_nodup_of_ofLine labels distinct h).resolve_left twice
    exact iff_of_true (reaches_of_nodup (nodup.filter _) hc d) fun missed => twice missed.1

/-- Two of three tags begin with the letter typed. Going back leads to the first of them and then to
the other one. -/
theorem reaches_iff_tags :
    let tags : List Tag := [⟨"1", "work", none⟩, ⟨"2", "home", none⟩, ⟨"3", "web", none⟩]
    (tags.map (·.label)).Nodup ∧ (["mail"] : List Text).Nodup ∧
      ∃ hint, ofLine (.ofUtc ⟨0, by decide⟩) tags ["mail"] "in articles tag w" = .ok hint ∧
        "web".toList ∈ candidates hint.completions (Text.splitLast "in articles tag w").2 ∧
        Reaches hint.completions (Text.splitLast "in articles tag w").2 .backward "web" := by
  intro tags
  have labels : (tags.map (·.label)).Nodup := by decide
  have distinct : (["mail"] : List Text).Nodup := by decide
  have found : ofLine (.ofUtc ⟨0, by decide⟩) tags ["mail"] "in articles tag w" =
      .ok (expecting "w" tags ["mail"] .tagExpected) := by
    decide +kernel
  have offered : "web".toList ∈ candidates (expecting "w" tags ["mail"] .tagExpected).completions
      (Text.splitLast "in articles tag w").2 := by
    decide +kernel
  refine ⟨labels, distinct, _, found, offered, ?_⟩
  apply (reaches_iff labels distinct found _ offered .backward).2
  exact fun missed => absurd missed.2.1 (by decide +kernel)

/-- Behind `read` all articles and the feeds are offered, and cycling goes on without coming to the
former, and back without coming to the latter. -/
theorem exists_not_reaches :
    ∃ hint, ofLine (.ofUtc ⟨0, by decide⟩) [] [] "read " = .ok hint ∧
      "%".toList ∈ candidates hint.completions (Text.splitLast "read ").2 ∧
      ¬ Reaches hint.completions (Text.splitLast "read ").2 .forward "%" ∧
      "feeds".toList ∈ candidates hint.completions (Text.splitLast "read ").2 ∧
      ¬ Reaches hint.completions (Text.splitLast "read ").2 .backward "feeds" := by
  have found : ofLine (.ofUtc ⟨0, by decide⟩) [] [] "read " = .ok targetOrScope := by
    decide +kernel
  have nothing : (Text.splitLast "read ").2 = [] := by decide +kernel
  refine ⟨targetOrScope, found, ?_⟩
  rw [nothing, reaches_targetOrScope_iff (by decide), reaches_targetOrScope_iff (by decide)]
  decide

end FeedReader.Hint
