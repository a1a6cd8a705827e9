import FeedReader.Proofs.Color.RoundTrip
import FeedReader.Proofs.Command.Missing
import FeedReader.Proofs.Hint.Wrapping

/-!
# Words that are offered are accepted

A word that is offered at the end of a line may be typed there: behind what stands before it, it is
read as an argument, or as the start of a command that goes on. This holds where a word is missing
and where a complete command may go on; where a wrong word stands, it is not corrected by another.

* `Command.Error.Blames`, `Command.Result.Accepts`: results that do not find fault with a word;
* `Command.accepts_keyword`: every command may be started;
* `mem_completable_append`, `exists_of_mem_completable`, …: the words of the lists that are offered;
* `accepts_of_misses`: the words that are offered for a missing argument;
* `accepts_of_continuing`: those that are offered behind a complete command;
* `accepts_of_ok`, `accepts_of_lacks`, `accepts_offered`: both behind wrappers, and in a hint.
-/

namespace FeedReader

open Text (IsBlanks IsJoin IsTrimmed IsWord)

namespace Command

variable {α β : Type} {now : Moment} {w : Text} {e : Error}

/-! ### Results that do not find fault with a word -/

/-- Whether an error names a word as the one that is wrong. -/
def Error.Blames (w : Text) (e : Error) : Prop :=
  e = .commandNameExpected w ∨ e.detail? = some w

namespace Error

/-- An error without a word in it names none. -/
theorem not_blames_of_none (none : e.detail? = none) (word : IsWord w) : ¬ e.Blames w := by
  rintro (rfl | same)
  · obtain ⟨c, w, rfl⟩ := List.exists_cons_of_ne_nil word.1
    cases none
  · rw [none] at same
    cases same

/-- An error with words that have blanks between them names none of them alone. -/
theorem not_blames_of_some {d : Text} (detail : e.detail? = some d) (blank : ¬ IsWord d)
    (word : IsWord w) (other : e ≠ .commandNameExpected w) : ¬ e.Blames w := by
  rintro (same | same)
  · exact other same
  · rw [detail, Option.some_inj] at same
    exact blank (same ▸ word)

end Error

/-- Whether a result is a value, or an error that does not name the word. -/
def Result.Accepts (w : Text) (r : Result α) : Prop :=
  (∃ a, r = .ok a) ∨ ∃ e, r = .error (.own e) ∧ ¬ e.Blames w

namespace Result

theorem accepts_ok (a : α) : Accepts w (.ok a) := .inl ⟨a, rfl⟩

theorem accepts_fail (other : ¬ e.Blames w) : Accepts w (fail e : Result α) := .inr ⟨e, rfl, other⟩

theorem accepts_ending (rest : Text) (a : α) : Accepts w (ending .lenient rest a) := by
  rw [ending, if_neg (by simp)]
  exact accepts_ok a

namespace Accepts

variable {r : Result α}

theorem map (h : Accepts w r) (f : α → β) : Accepts w (r.map f) := by
  rcases h with ⟨a, rfl⟩ | ⟨e, rfl, other⟩
  · exact .inl ⟨f a, rfl⟩
  · exact .inr ⟨e, rfl, other⟩

theorem bind {a : α} (value : r = .ok a) {f : α → Result β} (h : Accepts w (f a)) :
    Accepts w (r >>= f) := by
  subst value
  exact h

end Accepts

end Result

open Result

/-! ### Commands -/

/-- Every command can be started by its keyword, although it may lack its arguments. -/
theorem accepts_keyword (kind : Kind) :
    Accepts kind.keyword (read .lenient now kind.keyword) := by
  have word := kind.isWord_keyword
  obtain ⟨s, shape⟩ : ∃ s, kind.shape = s := ⟨_, rfl⟩
  rw [read_word shape]
  cases s <;> rw [readArguments]
  case nothing => exact accepts_ending _ _
  case targetScope | scope | optionalText => exact accepts_ok _
  case panelCommand =>
    split
    · next d failed =>
      obtain rfl := Except.error.inj failed
      exact .inr ⟨_, rfl, Error.not_blames_of_none rfl word⟩
    · next found => cases found
  case text =>
    have blank : ∀ k ∈ Kind.list, k.shape = .text → ¬ IsWord k.usage := by decide +kernel
    exact accepts_fail
      (Error.not_blames_of_some rfl (blank kind (Kind.mem_list kind) shape) word (by simp))
  case query | sortOrder =>
    exact accepts_fail (Error.not_blames_of_some rfl (by decide) word (by simp))
  -- all others lack a word
  all_goals exact .inr ⟨_, rfl, Error.not_blames_of_none rfl word⟩

end Command

namespace Hint

open Command Command.Result

variable {now : Moment} {tags : List Tag} {targets : List Text} {line typed w : Text}

/-! ### Words of lists -/

theorem mem_completable_append {a b : List Entry} :
    w ∈ completable (a ++ b) ↔ w ∈ completable a ∨ w ∈ completable b := by
  simp [completable]

theorem exists_of_mem_completable {α : Type} {f : α → Entry} {l : List α}
    (h : w ∈ completable (l.map f)) : ∃ a ∈ l, (f a).keyword = w := by
  obtain ⟨mem, -⟩ := List.mem_filter.1 h
  rw [List.map_map] at mem
  exact List.mem_map.1 mem

/-- The signs of scopes can be typed as they are, while there is no query that could be. -/
theorem exists_readScope_of_mem (h : w ∈ completable Entry.ofScopes) :
    ∃ scope, readScope now w = .ok scope := by
  have all : completable Entry.ofScopes = [ActionScope.currentSign, ActionScope.allSign] := by
    decide
  rw [all] at h
  rcases List.mem_cons.1 h with rfl | h
  · exact ⟨.current, rfl⟩
  · obtain rfl := List.mem_singleton.1 h
    exact ⟨.all, rfl⟩

theorem exists_readColor_of_mem (h : w ∈ completable Entry.ofColors) :
    ∃ color, readColor w = .ok color := by
  have written : Color.isWritten w = true := by
    rcases mem_completable_append.1 h with standard | hex
    · obtain ⟨name, mem, rfl⟩ := exists_of_mem_completable standard
      have first : Entry.standardColors <+: Color.names := ⟨Color.names.drop 16, rfl⟩
      have known : name ∈ Color.names := first.subset mem
      simp [Entry.plain, Color.isWritten, known]
    · obtain rfl : w = "#ffffff".toList := by simpa [completable] using hex
      have digits : Color.isHex "#ffffff" = true := by decide
      rw [Color.isWritten, digits, Bool.or_true, Bool.true_or, Bool.true_or]
  exact ⟨⟨w, written⟩, readColor_eq_ok.2 (Color.read_text ⟨w, written⟩)⟩

/-! ### Missing arguments -/

variable {kind : Kind} {s : Shape} {e : Error} {rest u : Text}

theorem accepts_readArticleScope (word : IsWord w) (h : w ∈ completable Entry.ofArticleScopes) :
    Accepts w (readArticleScope .lenient w) := by
  obtain ⟨scope, -, rfl⟩ := exists_of_mem_completable h
  exact .bind (readKeyword_word word scope.ofKeyword?_keyword) (accepts_ending _ _)

theorem accepts_readShow (word : IsWord w)
    (h : w ∈ completable (Entry.ofTargets ++ Entry.ofArticleScopes)) :
    Accepts w (readShow .lenient w) := by
  simp only [readShow, Text.splitWord_word word]
  rcases mem_completable_append.1 h with offered | offered
  · obtain ⟨target, -, rfl⟩ := exists_of_mem_completable offered
    -- the scope is missing now
    simp only [Entry.plain, ActionTarget.ofKeyword?_keyword]
    exact .inr ⟨.articleScopeExpected none, rfl, Error.not_blames_of_none rfl word⟩
  · have accepts := accepts_readArticleScope word offered
    obtain ⟨scope, -, rfl⟩ := exists_of_mem_completable offered
    have other : ActionTarget.ofKeyword? scope.keyword = none := by cases scope <;> decide
    simp only [Entry.plain, other] at accepts ⊢
    exact accepts.map _

/-- What is offered for a missing argument is read as one. -/
theorem accepts_of_misses (shape : kind.shape = s) (misses : Misses s rest e) (word : IsWord w)
    (offered : w ∈ (expecting typed tags targets e).completions) (goesOn : IsJoin rest w u)
    (trimmed : IsTrimmed u) : Accepts w (readArguments .lenient now kind u s shape) := by
  have whole : rest = [] → u = w := by
    rintro rfl
    exact goesOn.eq_word (List.forall_mem_nil _) word trimmed
  cases misses with
  | panel =>
    obtain rfl := whole rfl
    obtain ⟨panel, -, rfl⟩ := exists_of_mem_completable offered
    rw [readArguments]
    exact .bind (readKeyword_word word panel.ofKeyword?_keyword) (accepts_ending _ _)
  | panelCommand =>
    obtain rfl := whole rfl
    obtain ⟨panel, -, rfl⟩ := exists_of_mem_completable offered
    rw [readArguments_within shape (readKeyword_word word panel.ofKeyword?_keyword), if_pos rfl]
    exact accepts_fail (Error.not_blames_of_none rfl word)
  | position =>
    obtain rfl := whole rfl
    obtain ⟨position, -, rfl⟩ := exists_of_mem_completable offered
    rw [readArguments]
    exact .bind (readKeyword_word word position.ofKeyword?_keyword) (accepts_ending _ _)
  | color =>
    obtain rfl := whole rfl
    obtain ⟨color, read⟩ := exists_readColor_of_mem offered
    rw [readArguments]
    exact .bind (readWord_word word) (.bind read (accepts_ending _ _))
  | tagScope =>
    obtain rfl := whole rfl
    rw [readArguments]
    exact .bind (readWord_word word) (accepts_ok _)
  | tagColor =>
    obtain rfl := whole rfl
    rw [readArguments]
    exact .bind (readWord_word word) (accepts_ok _)
  | articleScope =>
    obtain rfl := whole rfl
    rw [readArguments]
    exact (accepts_readArticleScope word offered).map _
  | targetArticleScope =>
    obtain rfl := whole rfl
    rw [readArguments]
    exact accepts_readShow word offered
  | scopeInTarget found =>
    have split := goesOn.splitWord_of_words (Text.words_of_splitWord found) word
    rw [readArguments]
    simp only [readShow, split, ActionTarget.ofKeyword?_keyword]
    exact (accepts_readArticleScope word offered).map _
  | shareTarget | confirmation =>
    obtain rfl := whole rfl
    rw [readArguments]
    exact .bind (readWord_word word) (accepts_ending _ _)

/-! ### Arguments that may follow -/

theorem accepts_readScope (h : w ∈ completable Entry.ofScopes) {α : Type} (f : ActionScope → α) :
    Accepts w ((readScope now w).map f) := by
  obtain ⟨scope, read⟩ := exists_readScope_of_mem h
  rw [read]
  exact accepts_ok _

theorem accepts_readSetRead (word : IsWord w)
    (h : w ∈ completable (Entry.ofTargets ++ Entry.ofScopes)) :
    Accepts w (readSetRead now w) := by
  simp only [readSetRead, Text.splitWord_word word, Option.map_some]
  cases keyword : ActionTarget.ofKeyword? w with
  | some target => exact accepts_ok _
  | none =>
    rcases mem_completable_append.1 h with offered | offered
    · obtain ⟨target, -, rfl⟩ := exists_of_mem_completable offered
      exact absurd (target.ofKeyword?_keyword.symm.trans keyword) (Option.some_ne_none _)
    · exact accepts_readScope offered _

/-- What is offered behind a complete command is read as its next argument. -/
theorem accepts_of_continuing {hint : Hint} {c : Command} (shape : kind.shape = s)
    (trimmed : IsTrimmed rest) (complete : readArguments .lenient now kind rest s shape = .ok c)
    (continues : continuing? s (Text.words rest) = some hint) (word : IsWord w)
    (offered : w ∈ hint.completions) (goesOn : IsJoin rest w u) (trimmed' : IsTrimmed u) :
    Accepts w (readArguments .lenient now kind u s shape) := by
  have whole : Text.words rest = [] → u = w := fun none =>
    goesOn.eq_word (Text.words_eq_nil_iff.1 none) word trimmed'
  have behind {first : Text} (single : Text.words rest = [first]) :
      Text.splitWord u = some (first, w) := goesOn.splitWord_of_words single word
  unfold continuing? at continues
  split at continues
  case h_1 none =>
    obtain rfl := whole none
    obtain rfl := Option.some.inj continues
    rw [readArguments]
    exact accepts_readSetRead word offered
  case h_2 first single =>
    split at continues
    · next target =>
      obtain ⟨target, keyword⟩ := Option.isSome_iff_exists.1 target
      obtain rfl := Option.some.inj continues
      rw [readArguments]
      simp only [readSetRead, behind single, Option.map_some, keyword]
      exact accepts_readScope offered _
    · cases continues
  case h_3 none =>
    obtain rfl := whole none
    obtain rfl := Option.some.inj continues
    rw [readArguments]
    exact accepts_readScope offered _
  case h_4 tag single =>
    obtain rfl := Option.some.inj continues
    rw [readArguments]
    exact .bind (readWord_eq_ok.2 (behind single)) (accepts_readScope offered _)
  case h_5 tag single =>
    obtain rfl := Option.some.inj continues
    obtain ⟨color, read⟩ := exists_readColor_of_mem offered
    rw [readArguments]
    refine .bind (readWord_eq_ok.2 (behind single)) ?_
    simp only [Text.splitWord_word word]
    exact .bind read (accepts_ending _ _)
  case h_6 none =>
    -- a search that is complete has a term
    obtain rfl := eq_nil_of_isBlanks trimmed (Text.words_eq_nil_iff.1 none)
    rw [readArguments] at complete
    exact absurd complete fail_ne_ok
  case h_7 => cases continues

/-! ### Lines -/

variable {ws : List Wrapper} {finished v : Text}

/-- What is accepted behind the wrappers of a line is accepted behind the line. -/
theorem accepts_append (wraps : Wraps ws finished u) (word : IsWord w)
    (h : ∀ v, IsJoin u w v → Accepts w (read .lenient now v)) :
    Accepts w (read .lenient now (finished ++ ' ' :: w)) := by
  obtain ⟨v, wraps', goesOn⟩ := wraps.join (Text.isJoin_space finished w)
  rw [wraps'.read (goesOn.not_isBlanks word.not_isBlanks)]
  exact (h v goesOn).map _

theorem accepts_of_blanks (blanks : IsBlanks u) (offered : w ∈ completable Entry.ofCommands)
    (goesOn : IsJoin u w v) : Accepts w (read .lenient now v) := by
  obtain ⟨kind, -, rfl⟩ := exists_of_mem_completable offered
  rw [read_congr (goesOn.trim_eq blanks)]
  exact accepts_keyword kind

theorem accepts_of_ok {c : Command} (bare : IsBare u) (h : read .lenient now u = .ok c)
    (word : IsWord w) (offered : w ∈ (afterCommand u).completions) (goesOn : IsJoin u w v) :
    Accepts w (read .lenient now v) := by
  obtain ⟨kind, rest, found, complete⟩ := exists_of_read h
  obtain ⟨rest', found', goesOn'⟩ := goesOn.splitWord found
  rw [afterCommand, innermostLine_of_splitWord found (bare.shape_ne found)
    (bare.shape_ne_of_read found h)] at offered
  rw [read_of_splitWord found' rfl]
  cases continues : continuing? kind.shape (Text.words rest) with
  | none => simp [continues, empty] at offered
  | some hint =>
    simp only [continues, Option.getD_some] at offered
    exact accepts_of_continuing rfl (Text.isTrimmed_of_splitWord found) complete continues word
      offered goesOn' (Text.isTrimmed_of_splitWord found')

theorem accepts_of_lacks (bare : IsBare u) (more : ¬ IsBlanks u) (lacks : e.Lacks)
    (h : read .lenient now u = .error (.own e)) (word : IsWord w)
    (offered : w ∈ (expecting typed tags targets e).completions) (goesOn : IsJoin u w v) :
    Accepts w (read .lenient now v) := by
  obtain ⟨kind, rest, found, misses⟩ := misses_of_read bare more lacks h
  obtain ⟨rest', found', goesOn'⟩ := goesOn.splitWord found
  rw [read_of_splitWord found' rfl]
  exact accepts_of_misses rfl misses word offered goesOn' (Text.isTrimmed_of_splitWord found')

/-- Where the finished part of a line is a complete command, or lacks a word, each single word that
is offered behind it is accepted there: the line is a command with it, or its error is about
something else. -/
theorem accepts_offered
    (ready : (∃ c, read .lenient now (Text.splitLast line).1 = .ok c) ∨
      ∃ e, read .lenient now (Text.splitLast line).1 = .error (.own e) ∧ e.Lacks)
    (tags : List Tag) (targets : List Text) :
    ∃ hint, ofLine now tags targets line = .ok hint ∧ ∀ w ∈ hint.completions, IsWord w →
      Accepts w (read .lenient now ((Text.splitLast line).1 ++ ' ' :: w)) := by
  rcases last : Text.splitLast line with ⟨finished, typed⟩
  simp only [last] at ready ⊢
  rw [ofLine_of_splitLast last]
  obtain ⟨ws, u, wraps, bare⟩ := exists_wraps finished
  by_cases blanks : IsBlanks u
  · -- all commands are offered, at the start of the line or behind the wrappers
    rcases wraps.fail_of_blanks blanks with read | read <;> rw [read] <;>
      exact ⟨_, rfl, fun w offered word =>
        accepts_append wraps word fun v goesOn => accepts_of_blanks blanks offered goesOn⟩
  · rw [wraps.read blanks] at ready ⊢
    rcases ready with ⟨c, value⟩ | ⟨e, failed, lacks⟩
    · obtain ⟨d, found, -⟩ := map_eq_ok_iff.1 value
      rw [value]
      refine ⟨_, rfl, fun w offered word => accepts_append wraps word fun v goesOn => ?_⟩
      rw [afterCommand_of_wraps wraps] at offered
      exact accepts_of_ok bare found word offered goesOn
    · rw [failed]
      refine ⟨_, rfl, fun w offered word => accepts_append wraps word fun v goesOn => ?_⟩
      exact accepts_of_lacks bare blanks lacks (map_eq_error_iff.1 failed) word offered goesOn

/-- Behind a tag, in a panel, the sign for all articles is offered, and it is accepted there. -/
theorem accepts_offered_scopes :
    let now : Moment := .ofUtc ⟨0, by decide⟩
    let line : Text := "in articles tag work "
    read .lenient now (Text.splitLast line).1 =
        .ok (within .articles (onTag .tagArticles rfl "work" .current)) ∧
      ∃ hint, ofLine now [] [] line = .ok hint ∧ "%".toList ∈ hint.completions ∧
        (∀ w ∈ hint.completions, IsWord w →
          Accepts w (read .lenient now ((Text.splitLast line).1 ++ ' ' :: w))) ∧
        Accepts "%" (read .lenient now ((Text.splitLast line).1 ++ ' ' :: "%")) := by
  intro now line
  have found : read .lenient now (Text.splitLast line).1 =
      .ok (within .articles (onTag .tagArticles rfl "work" .current)) := by decide +kernel
  obtain ⟨hint, shown, accepted⟩ := accepts_offered (.inl ⟨_, found⟩) [] []
  have offered : "%".toList ∈ hint.completions := by
    have all : (ofLine now [] [] line).map (fun h => decide ("%".toList ∈ h.completions)) =
        .ok true := by
      decide +kernel
    rw [shown] at all
    exact of_decide_eq_true (Except.ok.inj all)
  exact ⟨found, hint, shown, offered, accepted, accepted _ offered (by decide)⟩

end Hint

end FeedReader
