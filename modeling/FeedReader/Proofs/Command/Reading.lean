import FeedReader.Command.Reader
import FeedReader.Proofs.Result
import FeedReader.Proofs.Text.Words

/-!
# What a command line that can be read looks like

* `eq_of_ending`, `readKeyword_eq_ok`, `readWord_eq_ok`, …: one lemma for each reader of an
  argument;
* `readKeyword_word`, `readWord_word`, `readWord_append`: reading a word alone, or before other
  text;
* `read_eq`, `exists_of_read`: the first word of a line decides how it is read, and that of a line
  that can be read is the keyword of a command;
* `readArguments_within`: reading a command for a panel;
* `read_word`, `read_append`: reading a keyword alone, or before a blank and other text.
-/

namespace FeedReader.Command

open Text (IsWord IsTrimmed IsLine)

variable {mode : Mode} {now : Moment} {t rest tail : Text} {panel : Panel}

/-! ### Single arguments -/

theorem fail_ne_ok {α : Type} {e : Error} {a : α} : (fail e : Result α) ≠ .ok a := by
  simp [fail]

theorem eq_of_ending {α : Type} {a b : α} (h : ending mode rest a = .ok b) : a = b := by
  unfold ending at h
  split at h
  · exact absurd h fail_ne_ok
  · exact Except.ok.inj h

@[simp] theorem ending_nil {α : Type} (mode : Mode) (a : α) : ending mode [] a = .ok a := by
  simp [ending]

theorem readKeyword_eq_ok {α : Type} {ofKeyword? : Text → Option α}
    {expected : Option Text → Error} {a : α} :
    readKeyword ofKeyword? expected t = .ok (a, rest) ↔
      ∃ word, Text.splitWord t = some (word, rest) ∧ ofKeyword? word = some a := by
  unfold readKeyword
  constructor
  · intro h
    split at h
    · exact absurd h fail_ne_ok
    · next word tail found =>
      split at h
      · exact absurd h fail_ne_ok
      · next value keyword =>
        simp only [Except.ok.injEq, Prod.mk.injEq] at h
        obtain ⟨rfl, rfl⟩ := h
        exact ⟨word, found, keyword⟩
  · rintro ⟨word, found, keyword⟩
    simp [found, keyword]

theorem readWord_eq_ok {missing : Error} {word : Text} :
    readWord missing t = .ok (word, rest) ↔ Text.splitWord t = some (word, rest) := by
  unfold readWord
  split
  · next none => simp [none, fail]
  · next found some => simp [some]

theorem readKeyword_word {α : Type} {ofKeyword? : Text → Option α}
    {expected : Option Text → Error} {a : α} (hw : IsWord t) (h : ofKeyword? t = some a) :
    readKeyword ofKeyword? expected t = .ok (a, []) :=
  readKeyword_eq_ok.2 ⟨t, Text.splitWord_word hw, h⟩

theorem readPanel_of_splitWord (found : Text.splitWord t = some (panel.keyword, rest)) :
    readPanel t = .ok (panel, rest) :=
  readKeyword_eq_ok.2 ⟨_, found, panel.ofKeyword?_keyword⟩

theorem readWord_word {missing : Error} (hw : IsWord t) : readWord missing t = .ok (t, []) :=
  readWord_eq_ok.2 (Text.splitWord_word hw)

theorem readWord_append {missing : Error} {word : Text} (hw : IsWord word) (ht : IsTrimmed t) :
    readWord missing (word ++ ' ' :: t) = .ok (word, t) :=
  readWord_eq_ok.2 (Text.splitWord_append hw ht)

theorem readColor_eq_ok {color : Color} : readColor t = .ok color ↔ Color.read t = .ok color := by
  unfold readColor
  split <;> simp_all [fail]

theorem readUrl_eq_ok {url : Url} : readUrl t = .ok url ↔ Url.read t = .ok url := by
  unfold readUrl
  split <;> simp_all [fail]

theorem readQuery_eq_ok {q : Query} : readQuery now t = .ok q ↔ Query.read t now = .ok q := by
  rw [readQuery, mapError_eq_ok_iff]

/-- A query keeps the text that it has been read from. -/
theorem text_of_readQuery {q : Query} (h : readQuery now t = .ok q) : q.text = t := by
  obtain ⟨p, -, rfl⟩ := map_eq_ok_iff.1 (readQuery_eq_ok.1 h)
  rfl

/-! ### Command lines -/

theorem read_eq (mode : Mode) (now : Moment) (t : Text) :
    read mode now t =
      match Text.splitWord t with
      | none => fail (.commandNameExpected [])
      | some (word, rest) =>
        match Kind.ofKeyword? word with
        | none => fail (.commandNameExpected word)
        | some kind => readArguments mode now kind rest kind.shape rfl := by
  rw [read]
  cases Text.splitWord t with
  | none => rfl
  | some found =>
    obtain ⟨word, rest⟩ := found
    cases keyword : Kind.ofKeyword? word <;> simp only [keyword]

theorem read_of_splitWord {kind : Kind} {s : Shape}
    (h : Text.splitWord t = some (kind.keyword, rest)) (shape : kind.shape = s) :
    read mode now t = readArguments mode now kind rest s shape := by
  subst shape
  simp only [read_eq, h, Kind.ofKeyword?_keyword]

/-- Reading a command for a panel. The reader keeps a proof of what it has found, which cannot be
rewritten. -/
theorem readArguments_within {kind : Kind} (shape : kind.shape = .panelCommand)
    (found : readPanel rest = .ok (panel, tail)) :
    readArguments mode now kind rest .panelCommand shape =
      if tail = [] then fail .commandExpected else (read mode now tail).map (.within panel) := by
  rw [readArguments]
  split
  · next e failed => simp [found] at failed
  · next panel' tail' found' =>
    rw [found, Except.ok.injEq, Prod.mk.injEq] at found'
    obtain ⟨rfl, rfl⟩ := found'
    rfl

/-- The first word of a line that can be read is a keyword, and the arguments of its command stand
in the rest of the line. -/
theorem exists_of_read {c : Command} (h : read mode now t = .ok c) :
    ∃ (kind : Kind) (rest : Text), Text.splitWord t = some (kind.keyword, rest) ∧
      readArguments mode now kind rest kind.shape rfl = .ok c := by
  rw [read_eq] at h
  split at h
  · exact absurd h fail_ne_ok
  · next word rest found =>
    split at h
    · exact absurd h fail_ne_ok
    · next kind keyword =>
      rw [← Kind.keyword_of_ofKeyword? keyword] at found
      exact ⟨kind, rest, found, h⟩

theorem Kind.isWord_keyword (k : Kind) : IsWord k.keyword := by
  have all : ∀ k ∈ Kind.list, IsWord k.keyword := by decide +kernel
  exact all k (Kind.mem_list k)

theorem read_word {kind : Kind} {s : Shape} (shape : kind.shape = s) :
    read mode now kind.keyword = readArguments mode now kind [] s shape :=
  read_of_splitWord (Text.splitWord_word kind.isWord_keyword) shape

theorem read_append {kind : Kind} {s : Shape} (shape : kind.shape = s) (ht : IsTrimmed t) :
    read mode now (kind.keyword ++ ' ' :: t) = readArguments mode now kind t s shape :=
  read_of_splitWord (Text.splitWord_append kind.isWord_keyword ht) shape

end FeedReader.Command
