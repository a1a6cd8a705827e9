import FeedReader.Proofs.Command.Wrapping

/-!
# Command lines that lack an argument

Reading can fail because a word is missing at the end of the line, or because a wrong one is found.

* `Error.Lacks`: the errors for a word that is missing;
* `Misses`: arguments of a command that lack one word at their end, with the error for it;
* `eq_of_readKeyword`, `eq_of_readWord`: single arguments that are missing;
* `misses_of_readArguments`, `misses_of_read`: a line that lacks a word lacks it at its end.
-/

namespace FeedReader.Command

open Text (IsBlanks IsTrimmed)

/-- Whether a word is missing, which is no error of another language and blames no word. -/
def Error.Lacks : Error → Prop
  | commandNameExpected word => word = []
  | panelExpected word | positionExpected word | articleScopeExpected word | colorExpected word =>
    word = none
  | commandExpected | tagExpected | targetOrArticleScopeExpected | shareTargetExpected
  | confirmationExpected => True
  | _ => False

/-- Arguments of a shape that lack one word at their end, with the error for it. -/
inductive Misses : Shape → Text → Error → Prop
  | panel : Misses .panel [] (.panelExpected none)
  | panelCommand : Misses .panelCommand [] (.panelExpected none)
  | position : Misses .position [] (.positionExpected none)
  | color : Misses .color [] (.colorExpected none)
  | tagScope : Misses .tagScope [] .tagExpected
  | tagColor : Misses .tagColor [] .tagExpected
  | articleScope : Misses .articleScope [] (.articleScopeExpected none)
  | targetArticleScope : Misses .targetArticleScope [] .targetOrArticleScopeExpected
  | scopeInTarget {target : ActionTarget} {rest : Text} :
    Text.splitWord rest = some (target.keyword, []) →
      Misses .targetArticleScope rest (.articleScopeExpected none)
  | shareTarget : Misses .shareTarget [] .shareTargetExpected
  | confirmation : Misses .confirmation [] .confirmationExpected

variable {mode : Mode} {now : Moment} {t u rest : Text} {e : Error}

/-! ### Single arguments -/

theorem eq_of_fail {α : Type} {d : Error} (h : (fail d : Result α) = .error (.own e)) : d = e :=
  Failure.own.inj (Except.error.inj h)

theorem not_lacks_of_fail {α : Type} {d : Error} (h : (fail d : Result α) = .error (.own e))
    (other : ¬ d.Lacks) : ¬ e.Lacks :=
  eq_of_fail h ▸ other

theorem eq_nil_of_isBlanks (trimmed : IsTrimmed t) (blanks : IsBlanks t) : t = [] := by
  rw [← Text.trim_eq_self trimmed, Text.trim_eq_nil_iff.2 blanks]

theorem eq_nil_of_splitWord (trimmed : IsTrimmed t) (none : Text.splitWord t = none) : t = [] :=
  eq_nil_of_isBlanks trimmed (Text.splitWord_eq_none_iff.1 none)

theorem eq_of_readKeyword {α : Type} {ofKeyword? : Text → Option α}
    {expected : Option Text → Error} (trimmed : IsTrimmed t)
    (h : readKeyword ofKeyword? expected t = .error (.own e)) (lacks : e.Lacks)
    (wrong : ∀ word, ¬ (expected (some word)).Lacks) : t = [] ∧ e = expected none := by
  unfold readKeyword at h
  split at h
  · next none => exact ⟨eq_nil_of_splitWord trimmed none, (eq_of_fail h).symm⟩
  · next word rest _ =>
    split at h
    · exact absurd lacks (not_lacks_of_fail h (wrong word))
    · cases h

theorem eq_of_readWord {missing : Error} (trimmed : IsTrimmed t)
    (h : readWord missing t = .error (.own e)) : t = [] ∧ e = missing := by
  unfold readWord at h
  split at h
  · next none => exact ⟨eq_nil_of_splitWord trimmed none, (eq_of_fail h).symm⟩
  · cases h

theorem not_lacks_of_ending {α : Type} {a : α} (h : ending mode rest a = .error (.own e)) :
    ¬ e.Lacks := by
  unfold ending at h
  split at h
  · exact not_lacks_of_fail h id
  · cases h

theorem not_lacks_of_readColor (h : readColor t = .error (.own e)) : ¬ e.Lacks := by
  unfold readColor at h
  split at h
  · cases h
  · exact not_lacks_of_fail h (Option.some_ne_none t)
  · cases h

theorem not_lacks_of_readUrl (h : readUrl t = .error (.own e)) : ¬ e.Lacks := by
  unfold readUrl at h
  split at h
  · cases h
  · exact not_lacks_of_fail h id
  · cases h

theorem not_lacks_of_mapError_query {α : Type} {r : Query.Result α}
    (h : r.mapError (Failure.map Error.queryExpected) = .error (.own e)) : ¬ e.Lacks := by
  obtain ⟨e', -, same⟩ := mapError_eq_error_iff.1 h
  cases e' with
  | own cause =>
    obtain rfl : .queryExpected cause = e := by simpa [Failure.map] using same
    exact id
  | mishap m => cases same

theorem not_lacks_of_readScope (h : readScope now t = .error (.own e)) : ¬ e.Lacks := by
  unfold readScope at h
  split at h
  · cases h
  · exact not_lacks_of_mapError_query h

theorem eq_of_readArticleScope (trimmed : IsTrimmed t) (lacks : e.Lacks)
    (h : readArticleScope mode t = .error (.own e)) :
    t = [] ∧ e = .articleScopeExpected none := by
  rcases bind_eq_error_iff.1 h with h | ⟨⟨scope, tail⟩, -, h⟩
  · exact eq_of_readKeyword trimmed h lacks (fun word => Option.some_ne_none word)
  · exact absurd lacks (not_lacks_of_ending h)

/-! ### Arguments of each shape -/

theorem not_lacks_of_readSetRead (h : readSetRead now rest = .error (.own e)) : ¬ e.Lacks := by
  unfold readSetRead at h
  split at h
  · exact not_lacks_of_readScope (map_eq_error_iff.1 h)
  · exact not_lacks_of_readScope (map_eq_error_iff.1 h)

theorem misses_of_readAddTag (trimmed : IsTrimmed rest) (lacks : e.Lacks)
    (h : readAddTag mode rest = .error (.own e)) : Misses .tagColor rest e := by
  rcases bind_eq_error_iff.1 h with h | ⟨⟨tag, tail⟩, -, h⟩
  · obtain ⟨rfl, rfl⟩ := eq_of_readWord trimmed h
    exact .tagColor
  · simp only at h
    split at h
    · cases h
    · rcases bind_eq_error_iff.1 h with h | ⟨color, -, h⟩
      · exact absurd lacks (not_lacks_of_readColor h)
      · exact absurd lacks (not_lacks_of_ending h)

theorem misses_of_readShow (trimmed : IsTrimmed rest) (lacks : e.Lacks)
    (h : readShow mode rest = .error (.own e)) : Misses .targetArticleScope rest e := by
  unfold readShow at h
  split at h
  · next none =>
    obtain rfl := eq_nil_of_splitWord trimmed none
    obtain rfl := eq_of_fail h
    exact .targetArticleScope
  · next word tail found =>
    split at h
    · next target keyword =>
      obtain ⟨rfl, rfl⟩ := eq_of_readArticleScope (Text.isTrimmed_of_splitWord found) lacks
        (map_eq_error_iff.1 h)
      obtain rfl : target.keyword = word := by simpa using List.find?_some keyword
      exact .scopeInTarget found
    · -- there is a word, so that none is missing
      obtain ⟨rfl, rfl⟩ := eq_of_readArticleScope trimmed lacks (map_eq_error_iff.1 h)
      cases found

theorem not_lacks_of_readSearch (h : readSearch mode rest = .error (.own e)) : ¬ e.Lacks := by
  unfold readSearch at h
  split at h
  · exact not_lacks_of_fail h id
  · split at h
    · exact not_lacks_of_fail h id
    · exact not_lacks_of_ending h

theorem not_lacks_of_readSort (h : readSort rest = .error (.own e)) : ¬ e.Lacks := by
  unfold readSort at h
  split at h
  · exact not_lacks_of_fail h id
  · split at h
    · exact not_lacks_of_fail h id
    · cases h

/-- Arguments that lack a word lack it at their end, unless there is a command among them. -/
theorem misses_of_readArguments {kind : Kind} {s : Shape} (shape : kind.shape = s)
    (trimmed : IsTrimmed rest) (noCommand : s ≠ .command)
    (noPanel : ∀ panel, s = .panelCommand → readPanel rest ≠ .ok panel) (lacks : e.Lacks)
    (h : readArguments mode now kind rest s shape = .error (.own e)) : Misses s rest e := by
  -- one case for each shape of arguments
  cases s <;> rw [readArguments] at h
  case nothing => exact absurd lacks (not_lacks_of_ending h)
  case panel =>
    rcases bind_eq_error_iff.1 h with h | ⟨⟨panel, tail⟩, -, h⟩
    · obtain ⟨rfl, rfl⟩ := eq_of_readKeyword trimmed h lacks (fun word => Option.some_ne_none word)
      exact .panel
    · exact absurd lacks (not_lacks_of_ending h)
  case panelCommand =>
    split at h
    · next d failed =>
      obtain rfl := Except.error.inj h
      obtain ⟨rfl, rfl⟩ :=
        eq_of_readKeyword trimmed failed lacks (fun word => Option.some_ne_none word)
      exact .panelCommand
    · next found => exact absurd found (noPanel _ rfl)
  case command => exact absurd rfl noCommand
  case targetScope => exact absurd lacks (not_lacks_of_readSetRead h)
  case scope => exact absurd lacks (not_lacks_of_readScope (map_eq_error_iff.1 h))
  case tagScope =>
    rcases bind_eq_error_iff.1 h with h | ⟨⟨tag, tail⟩, -, h⟩
    · obtain ⟨rfl, rfl⟩ := eq_of_readWord trimmed h
      exact .tagScope
    · exact absurd lacks (not_lacks_of_readScope (map_eq_error_iff.1 h))
  case urlName =>
    rcases bind_eq_error_iff.1 h with h | ⟨⟨word, tail⟩, -, h⟩
    · exact absurd lacks ((eq_of_readWord trimmed h).2 ▸ id)
    · exact absurd lacks (not_lacks_of_readUrl (map_eq_error_iff.1 h))
  case url =>
    rcases bind_eq_error_iff.1 h with h | ⟨⟨word, tail⟩, -, h⟩
    · exact absurd lacks ((eq_of_readWord trimmed h).2 ▸ id)
    · rcases bind_eq_error_iff.1 h with h | ⟨url, -, h⟩
      · exact absurd lacks (not_lacks_of_readUrl h)
      · exact absurd lacks (not_lacks_of_ending h)
  case position =>
    rcases bind_eq_error_iff.1 h with h | ⟨⟨position, tail⟩, -, h⟩
    · obtain ⟨rfl, rfl⟩ := eq_of_readKeyword trimmed h lacks (fun word => Option.some_ne_none word)
      exact .position
    · exact absurd lacks (not_lacks_of_ending h)
  case text =>
    split at h
    · exact absurd lacks (not_lacks_of_fail h id)
    · cases h
  case color =>
    rcases bind_eq_error_iff.1 h with h | ⟨⟨word, tail⟩, -, h⟩
    · obtain ⟨rfl, rfl⟩ := eq_of_readWord trimmed h
      exact .color
    · rcases bind_eq_error_iff.1 h with h | ⟨color, -, h⟩
      · exact absurd lacks (not_lacks_of_readColor h)
      · exact absurd lacks (not_lacks_of_ending h)
  case tagColor => exact misses_of_readAddTag trimmed lacks h
  case articleScope =>
    obtain ⟨rfl, rfl⟩ := eq_of_readArticleScope trimmed lacks (map_eq_error_iff.1 h)
    exact .articleScope
  case targetArticleScope => exact misses_of_readShow trimmed lacks h
  case query =>
    split at h
    · exact absurd lacks (not_lacks_of_fail h id)
    · exact absurd lacks (not_lacks_of_mapError_query (map_eq_error_iff.1 h))
  case searchTerm => exact absurd lacks (not_lacks_of_readSearch h)
  case sortOrder => exact absurd lacks (not_lacks_of_readSort h)
  case shareTarget =>
    rcases bind_eq_error_iff.1 h with h | ⟨⟨target, tail⟩, -, h⟩
    · obtain ⟨rfl, rfl⟩ := eq_of_readWord trimmed h
      exact .shareTarget
    · exact absurd lacks (not_lacks_of_ending h)
  case path =>
    split at h
    · exact absurd lacks (not_lacks_of_fail h id)
    · cases h
  case confirmation =>
    rcases bind_eq_error_iff.1 h with h | ⟨⟨word, tail⟩, -, h⟩
    · obtain ⟨rfl, rfl⟩ := eq_of_readWord trimmed h
      exact .confirmation
    · exact absurd lacks (not_lacks_of_ending h)
  case optionalText => cases h

/-! ### Command lines -/

/-- A line that lacks a word and does not start with a wrapper starts with a command that misses an
argument. -/
theorem misses_of_read (bare : IsBare u) (more : ¬ IsBlanks u) (lacks : e.Lacks)
    (h : read mode now u = .error (.own e)) :
    ∃ (kind : Kind) (rest : Text), Text.splitWord u = some (kind.keyword, rest) ∧
      Misses kind.shape rest e := by
  rw [read_eq] at h
  split at h
  · next none => exact absurd (Text.splitWord_eq_none_iff.1 none) more
  · next word rest found =>
    split at h
    · -- the word is no keyword, but it is there
      exact absurd lacks (not_lacks_of_fail h (Text.isWord_of_splitWord found).1)
    · next kind keyword =>
      rw [← Kind.keyword_of_ofKeyword? keyword] at found
      exact ⟨kind, rest, found, misses_of_readArguments rfl (Text.isTrimmed_of_splitWord found)
        (bare.shape_ne found) (fun panel shape => bare.readPanel_ne found shape panel) lacks h⟩

end FeedReader.Command
