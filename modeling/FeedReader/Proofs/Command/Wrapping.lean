import FeedReader.Proofs.Command.Reading
import FeedReader.Proofs.Text.Lines

/-!
# Command lines around a command line

A line may start with `confirm` and with `in` and a panel, any number of times. The rest of it is
read as it is read alone, and the command is put into what stands before it.

* `Wrapper`: what may stand before a command, with its `words` and with `wrap`, the command around a
  command;
* `read_congr`: blanks around a line do not matter;
* `Wraps`: a line that starts with wrappers, and what stands behind them;
* `Wraps.read`, `Wraps.read_of_blanks`: how such a line is read;
* `Wraps.join`, `wraps_of_words`: lines that go on behind their wrappers;
* `exists_wraps`: every line starts with wrappers, perhaps none, and goes on as a line that starts
  with none.
-/

namespace FeedReader.Command

open Text (IsBlanks IsJoin)

/-- What may stand before a command: a question for confirmation, or a panel it is meant for. -/
inductive Wrapper
  | confirm
  | within (panel : Panel)
  deriving DecidableEq

namespace Wrapper

/-- How it is written. -/
def words : Wrapper → List Text
  | confirm => [Kind.confirm.keyword]
  | within panel => [Kind.within.keyword, panel.keyword]

/-- The command around a command. -/
def wrap : Wrapper → Command → Command
  | confirm, c => .confirm c
  | within panel, c => .within panel c

/-- The command with all of them around it. -/
def wrapAll (ws : List Wrapper) (c : Command) : Command := ws.foldr wrap c

end Wrapper

open Wrapper (wrapAll)

variable {mode : Mode} {now : Moment} {t u v x rest tail : Text} {panel : Panel} {ws : List Wrapper}

/-! ### The first word of a line -/

/-- Blanks around a line do not matter. -/
theorem read_congr (same : Text.trim t = Text.trim u) : read mode now t = read mode now u := by
  rw [read_eq, read_eq, ← Text.splitWord_trim t, same, Text.splitWord_trim]

theorem read_of_blanks (blanks : IsBlanks t) :
    read mode now t = fail (.commandNameExpected []) := by
  rw [read_eq, Text.splitWord_eq_none_iff.2 blanks]

theorem read_confirm (found : Text.splitWord t = some (Kind.confirm.keyword, rest)) :
    read mode now t =
      if rest = [] then fail .commandExpected else (read mode now rest).map .confirm := by
  rw [read_of_splitWord found (s := .command) (by decide), readArguments]

theorem read_within (found : Text.splitWord t = some (Kind.within.keyword, rest))
    (next : Text.splitWord rest = some (panel.keyword, tail)) :
    read mode now t =
      if tail = [] then fail .commandExpected else (read mode now tail).map (.within panel) := by
  rw [read_of_splitWord found (s := .panelCommand) (by decide),
    readArguments_within _ (readPanel_of_splitWord next)]

/-! ### Wrappers at the start of a line -/

/-- Whether a line consists of wrappers and another line behind them. -/
inductive Wraps : List Wrapper → Text → Text → Prop
  | nil {t u : Text} : Text.trim t = Text.trim u → Wraps [] t u
  | confirm {ws : List Wrapper} {t rest u : Text} :
    Text.splitWord t = some (Kind.confirm.keyword, rest) → Wraps ws rest u →
      Wraps (.confirm :: ws) t u
  | within {ws : List Wrapper} {panel : Panel} {t rest tail u : Text} :
    Text.splitWord t = some (Kind.within.keyword, rest) →
      Text.splitWord rest = some (panel.keyword, tail) → Wraps ws tail u →
        Wraps (.within panel :: ws) t u

namespace Wraps

/-- What stands behind a wrapper. -/
theorem exists_of_cons {w : Wrapper} (h : Wraps (w :: ws) t u) :
    ∃ rest, Text.IsTrimmed rest ∧ Wraps ws rest u ∧ ∀ mode now,
      read mode now t =
        if rest = [] then fail .commandExpected else (read mode now rest).map w.wrap := by
  cases h with
  | @confirm _ _ rest _ found inner =>
    exact ⟨rest, Text.isTrimmed_of_splitWord found, inner, fun _ _ => read_confirm found⟩
  | @within _ panel _ rest tail _ found next inner =>
    exact ⟨tail, Text.isTrimmed_of_splitWord next, inner, fun _ _ => read_within found next⟩

theorem isBlanks_of_nil (h : Wraps ws [] u) : ws = [] ∧ IsBlanks u := by
  cases h with
  | nil same => exact ⟨rfl, Text.trim_eq_nil_iff.1 same.symm⟩
  | confirm found => simp [Text.splitWord, Text.trimStart] at found
  | within found => simp [Text.splitWord, Text.trimStart] at found

/-- A line of wrappers alone lacks a command. -/
theorem read_of_blanks (h : Wraps ws t u) (some : ws ≠ []) (blanks : IsBlanks u) :
    read mode now t = fail .commandExpected := by
  induction ws generalizing t with
  | nil => exact absurd rfl some
  | cons w ws ih =>
    obtain ⟨rest, trimmed, inner, read⟩ := exists_of_cons h
    rw [read]
    split
    · rfl
    · next more =>
      cases ws with
      | nil =>
        cases inner with
        | nil same =>
          rw [Text.trim_eq_self trimmed, Text.trim_eq_nil_iff.2 blanks] at same
          exact absurd same more
      | cons w' ws =>
        rw [ih inner (List.cons_ne_nil w' ws)]
        rfl

/-- A line without a command lacks the name of one, or the command behind its wrappers. -/
theorem fail_of_blanks (h : Wraps ws t u) (blanks : IsBlanks u) :
    Command.read mode now t = fail (.commandNameExpected []) ∨
      Command.read mode now t = fail .commandExpected := by
  cases ws with
  | nil =>
    cases h with
    | nil same => exact .inl (by rw [read_congr same, Command.read_of_blanks blanks])
  | cons w ws => exact .inr (read_of_blanks h (List.cons_ne_nil w ws) blanks)

/-- What stands behind the wrappers is read as it is read alone. -/
theorem read (h : Wraps ws t u) (some : ¬ IsBlanks u) :
    Command.read mode now t = (Command.read mode now u).map (wrapAll ws) := by
  induction ws generalizing t with
  | nil =>
    cases h with
    | nil same =>
      rw [read_congr same]
      cases Command.read mode now u <;> rfl
  | cons w ws ih =>
    obtain ⟨rest, -, inner, read⟩ := exists_of_cons h
    have more : rest ≠ [] := by
      rintro rfl
      exact some inner.isBlanks_of_nil.2
    rw [read, if_neg more, ih inner]
    cases Command.read mode now u <;> rfl

/-- A line that goes on does so behind its wrappers. -/
theorem join (h : Wraps ws t v) (goesOn : IsJoin t x u) : ∃ v', Wraps ws u v' ∧ IsJoin v x v' := by
  induction h generalizing u with
  | nil same => exact ⟨u, .nil rfl, goesOn.congr same⟩
  | confirm found _ ih =>
    obtain ⟨rest, found', more⟩ := goesOn.splitWord found
    obtain ⟨v', inner, whole⟩ := ih more
    exact ⟨v', .confirm found' inner, whole⟩
  | within found next _ ih =>
    obtain ⟨rest, found', more⟩ := goesOn.splitWord found
    obtain ⟨tail, next', more'⟩ := more.splitWord next
    obtain ⟨v', inner, whole⟩ := ih more'
    exact ⟨v', .within found' next' inner, whole⟩

end Wraps

/-- Whether a line does not start with a wrapper. -/
structure IsBare (t : Text) : Prop where
  confirm : ∀ rest, Text.splitWord t ≠ some (Kind.confirm.keyword, rest)
  within : ∀ rest, Text.splitWord t = some (Kind.within.keyword, rest) →
    ∀ (panel : Panel) tail, Text.splitWord rest ≠ some (panel.keyword, tail)

namespace IsBare

variable {kind : Kind}

theorem shape_ne (h : IsBare t) (found : Text.splitWord t = some (kind.keyword, rest)) :
    kind.shape ≠ .command := by
  have only : ∀ k ∈ Kind.list, k.shape = .command → k = .confirm := by decide
  intro shape
  obtain rfl := only kind (Kind.mem_list kind) shape
  exact h.confirm rest found

theorem readPanel_ne (h : IsBare t) (found : Text.splitWord t = some (kind.keyword, rest))
    (shape : kind.shape = .panelCommand) (p : Panel × Text) : readPanel rest ≠ .ok p := by
  have only : ∀ k ∈ Kind.list, k.shape = .panelCommand → k = .within := by decide
  obtain rfl := only kind (Kind.mem_list kind) shape
  intro read
  obtain ⟨word, next, keyword⟩ := readKeyword_eq_ok.1 read
  obtain rfl : p.1.keyword = word := by simpa using List.find?_some keyword
  exact h.within rest found p.1 p.2 next

theorem shape_ne_of_read {c : Command} (h : IsBare t)
    (found : Text.splitWord t = some (kind.keyword, rest)) (read : read mode now t = .ok c) :
    kind.shape ≠ .panelCommand := by
  intro shape
  rw [read_of_splitWord found shape, readArguments] at read
  split at read
  · cases read
  · next panel => exact h.readPanel_ne found shape _ panel

end IsBare

/-- Every line starts with wrappers, perhaps none, and goes on as a line without them. The induction
is on the length of the line. -/
theorem exists_wraps (t : Text) : ∃ ws u, Wraps ws t u ∧ IsBare u := by
  induction hn : t.length using Nat.strong_induction_on generalizing t with
  | _ n ih =>
    by_cases confirm : ∃ rest, Text.splitWord t = some (Kind.confirm.keyword, rest)
    · obtain ⟨rest, found⟩ := confirm
      have shorter := Text.length_of_splitWord found
      obtain ⟨ws, u, inner, bare⟩ := ih rest.length (by omega) rest rfl
      exact ⟨_, u, .confirm found inner, bare⟩
    · by_cases within : ∃ rest, Text.splitWord t = some (Kind.within.keyword, rest) ∧
          ∃ (panel : Panel) (tail : Text), Text.splitWord rest = some (panel.keyword, tail)
      · obtain ⟨rest, found, panel, tail, next⟩ := within
        have shorter := Text.length_of_splitWord found
        have shorter' := Text.length_of_splitWord next
        obtain ⟨ws, u, inner, bare⟩ := ih tail.length (by omega) tail rfl
        exact ⟨_, u, .within found next inner, bare⟩
      · refine ⟨[], t, .nil rfl, fun rest found => confirm ⟨rest, found⟩, ?_⟩
        exact fun rest found panel tail next => within ⟨rest, found, panel, tail, next⟩

end FeedReader.Command
