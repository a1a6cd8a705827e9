import FeedReader.Proofs.Command.Wrapping
import FeedReader.Proofs.Query.Locality

/-!
# Text behind the arguments of a command

The arguments of many commands have an end of their own. A line with such a command may go on: the
command is the same, and the rest of the line is left over.

* `Shape.closed`, `Command.IsClosed`: the commands whose arguments have an end of their own;
* `Result.LeavesOver`: reading gives a value and leaves text over;
* `readKeyword_join`, `readWord_join`: a single argument in a line that goes on;
* `leavesOver_readArguments`: the arguments of each shape;
* `leavesOver_read`, `read_append_of_isClosed`: command lines.
-/

namespace FeedReader.Command

open Text (IsBlanks IsJoin IsTrimmed)

/-- The shapes of arguments that have an end of their own. -/
def Shape.closed : List Shape :=
  [.nothing, .panel, .url, .position, .color, .articleScope, .targetArticleScope, .searchTerm,
    .shareTarget, .confirmation]

/-- Whether the arguments of a command have an end of their own. Those of a new tag have one only
behind its color. -/
def IsClosed (c : Command) : Prop :=
  c.kind.shape ∈ Shape.closed ∨ ∃ tag color, c = .addTag tag (some color)

variable {α β : Type} {mode : Mode} {now : Moment} {t u x rest : Text} {c : Command}

theorem not_isClosed {s : Shape} (shape : c.kind.shape = s)
    (other : s ∉ .tagColor :: Shape.closed) : ¬ c.IsClosed := by
  rintro (closed | ⟨tag, color, rfl⟩)
  · exact other (List.mem_cons_of_mem _ (shape ▸ closed))
  · exact other (shape ▸ List.mem_cons_self)

/-! ### Results -/

theorem map_ending (f : α → β) (left : Text) (a : α) :
    (ending mode left a).map f = ending mode left (f a) := by
  unfold ending
  split <;> rfl

/-- Whether reading gives a value and leaves text over, in either mode. -/
def Result.LeavesOver (read : Mode → Result α) (a : α) : Prop :=
  ∃ left ≠ [], ∀ mode, read mode = ending mode left a

namespace Result

theorem leavesOver_ending {left : Text} (some : left ≠ []) (a : α) :
    LeavesOver (fun mode => ending mode left a) a := ⟨left, some, fun _ => rfl⟩

namespace LeavesOver

variable {read : Mode → Result α} {a : α}

theorem lenient (h : LeavesOver read a) : read .lenient = .ok a := by
  obtain ⟨left, -, reads⟩ := h
  rw [reads, ending, if_neg (by simp)]

theorem eager (h : LeavesOver read a) :
    ∃ left, read .eager = .error (.own (.nothingExpected left)) := by
  obtain ⟨left, some, reads⟩ := h
  exact ⟨left, by rw [reads, ending, if_pos ⟨rfl, some⟩, fail]⟩

theorem map (h : LeavesOver read a) (f : α → β) :
    LeavesOver (fun mode => (read mode).map f) (f a) := by
  obtain ⟨left, some, reads⟩ := h
  exact ⟨left, some, fun mode => (congrArg (Except.map f) (reads mode)).trans (map_ending f left a)⟩

/-- What is read in the same way in both modes may stand before what leaves text over. -/
theorem bind {r : Result α} (value : r = .ok a) {next : Mode → α → Result β} {b : β}
    (h : LeavesOver (next · a) b) : LeavesOver (fun mode => r >>= next mode) b := by
  subst value
  exact h

end LeavesOver

end Result

open Result

/-! ### Single arguments -/

theorem readKeyword_join {ofKeyword? : Text → Option α} {expected : Option Text → Error} {a : α}
    (goesOn : IsJoin t x u) (h : readKeyword ofKeyword? expected t = .ok (a, rest)) :
    ∃ rest', readKeyword ofKeyword? expected u = .ok (a, rest') ∧ IsJoin rest x rest' := by
  obtain ⟨word, found, keyword⟩ := readKeyword_eq_ok.1 h
  obtain ⟨rest', found', goesOn'⟩ := goesOn.splitWord found
  exact ⟨rest', readKeyword_eq_ok.2 ⟨word, found', keyword⟩, goesOn'⟩

theorem readWord_join {missing : Error} {word : Text} (goesOn : IsJoin t x u)
    (h : readWord missing t = .ok (word, rest)) :
    ∃ rest', readWord missing u = .ok (word, rest') ∧ IsJoin rest x rest' := by
  obtain ⟨rest', found, goesOn'⟩ := goesOn.splitWord (readWord_eq_ok.1 h)
  exact ⟨rest', readWord_eq_ok.2 found, goesOn'⟩

section More

variable (goesOn : IsJoin rest x u) (more : ¬ IsBlanks x)

include goesOn more

theorem leavesOver_readArticleScope {scope : ArticleScope}
    (h : readArticleScope .lenient rest = .ok scope) :
    LeavesOver (readArticleScope · u) scope := by
  obtain ⟨⟨scope, tail⟩, found, h⟩ := bind_eq_ok_iff.1 h
  obtain rfl := eq_of_ending h
  obtain ⟨tail', found', goesOn'⟩ := readKeyword_join goesOn found
  exact .bind found' (leavesOver_ending (goesOn'.ne_nil more) scope)

/-! ### Arguments of each shape -/

theorem leavesOver_readAddTag (closed : c.innermost.IsClosed)
    (h : readAddTag .lenient rest = .ok c) : LeavesOver (readAddTag · u) c := by
  obtain ⟨⟨tag, tail⟩, found, h⟩ := bind_eq_ok_iff.1 h
  obtain ⟨tail', found', goesOn'⟩ := readWord_join goesOn found
  refine .bind found' ?_
  simp only at h ⊢
  cases split : Text.splitWord tail with
  | none =>
    simp only [split] at h
    obtain rfl := Except.ok.inj h
    rcases closed with shape | ⟨_, _, same⟩
    · have other : Kind.addTag.shape ∉ Shape.closed := by decide
      exact absurd shape other
    · cases same
  | some p =>
    obtain ⟨word, tail⟩ := p
    simp only [split] at h
    obtain ⟨color, read, h⟩ := bind_eq_ok_iff.1 h
    obtain rfl := eq_of_ending h
    obtain ⟨left, split', goesOn''⟩ := goesOn'.splitWord split
    simp only [split']
    exact .bind read (leavesOver_ending (goesOn''.ne_nil more) _)

theorem leavesOver_readShow (h : readShow .lenient rest = .ok c) :
    LeavesOver (readShow · u) c := by
  unfold readShow at h ⊢
  cases found : Text.splitWord rest with
  | none => simp [found, fail] at h
  | some p =>
    obtain ⟨word, tail⟩ := p
    obtain ⟨tail', found', goesOn'⟩ := goesOn.splitWord found
    simp only [found, found'] at h ⊢
    cases keyword : ActionTarget.ofKeyword? word with
    | some target =>
      simp only [keyword] at h
      obtain ⟨scope, read, rfl⟩ := map_eq_ok_iff.1 h
      exact (leavesOver_readArticleScope goesOn' more read).map _
    | none =>
      simp only [keyword] at h
      obtain ⟨scope, read, rfl⟩ := map_eq_ok_iff.1 h
      exact (leavesOver_readArticleScope goesOn more read).map _

/-- A search term ends before a blank, or at a mark of its own. -/
theorem leavesOver_readSearch (before : IsTrimmed rest) (after : IsTrimmed u)
    (h : readSearch .lenient rest = .ok c) : LeavesOver (readSearch · u) c := by
  unfold readSearch at h
  split at h
  · exact absurd h fail_ne_ok
  · next y d found =>
    split at h
    · exact absurd h fail_ne_ok
    · next term read =>
      obtain rfl := eq_of_ending h
      have some : rest ≠ [] := by
        rintro rfl
        simp [Query.Cursor.next_of_nil (c := .start []) rfl] at found
      have start : ∀ a ∈ rest.head?, Query.isGap a = false := by
        intro a ha
        by_contra gap
        have blank := Query.isBlank_of_isGap (Bool.not_eq_false _ ▸ gap)
        simp [before.1 a ha] at blank
      have sound : y.token ≠ .error := by
        rcases Query.SearchTerm.token_of_ofLexeme read with token | token | token <;> simp [token]
      obtain ⟨b, z, blank, last, rfl⟩ := goesOn.exists_append ⟨before, some⟩ after more
      refine ⟨Text.trim (d.rest ++ b :: z), ?_, fun mode => ?_⟩
      · intro none
        have blanks := Text.trim_eq_nil_iff.1 none
        exact last fun e he => blanks e (List.mem_append_right _ (List.mem_cons_of_mem b he))
      · simp only [readSearch, Query.Cursor.next_append blank z start found sound, read]

/-- Arguments in a line that goes on, if that holds of the command lines in them. -/
theorem leavesOver_readArguments {kind : Kind} {s : Shape} (shape : kind.shape = s)
    (before : IsTrimmed rest) (after : IsTrimmed u) (closed : c.innermost.IsClosed)
    (h : readArguments .lenient now kind rest s shape = .ok c)
    (inner : ∀ tail tail' d, tail.length ≤ rest.length → IsJoin tail x tail' →
      d.innermost.IsClosed → read .lenient now tail = .ok d → LeavesOver (read · now tail') d) :
    LeavesOver (fun mode => readArguments mode now kind u s shape) c := by
  have left : u ≠ [] := goesOn.ne_nil more
  -- one case for each shape of arguments; those without an end of their own do not occur
  cases s
  case panelCommand =>
    rw [readArguments] at h
    split at h
    · simp at h
    · next panel tail found =>
      obtain ⟨tail', found', goesOn'⟩ := readKeyword_join goesOn found
      split at h
      · exact absurd h fail_ne_ok
      · obtain ⟨d, read, rfl⟩ := map_eq_ok_iff.1 h
        simp only [readArguments_within shape found', if_neg (goesOn'.ne_nil more)]
        exact (inner tail tail' d (length_of_readKeyword found).le goesOn' closed read).map _
  all_goals simp only [readArguments] at h ⊢
  case command =>
    split at h
    · exact absurd h fail_ne_ok
    · obtain ⟨d, read, rfl⟩ := map_eq_ok_iff.1 h
      simp only [if_neg left]
      exact (inner rest u d le_rfl goesOn closed read).map _
  case nothing =>
    obtain rfl := eq_of_ending h
    exact leavesOver_ending left _
  case panel =>
    obtain ⟨⟨panel, tail⟩, found, h⟩ := bind_eq_ok_iff.1 h
    obtain rfl := eq_of_ending h
    obtain ⟨tail', found', goesOn'⟩ := readKeyword_join goesOn found
    exact .bind found' (leavesOver_ending (goesOn'.ne_nil more) _)
  case targetScope =>
    unfold readSetRead at h
    split at h <;> obtain ⟨scope, -, rfl⟩ := map_eq_ok_iff.1 h <;>
      exact absurd closed (not_isClosed (s := .targetScope) rfl (by decide))
  case scope =>
    obtain ⟨scope, -, rfl⟩ := map_eq_ok_iff.1 h
    exact absurd closed (not_isClosed shape (by decide))
  case tagScope =>
    obtain ⟨⟨tag, tail⟩, -, h⟩ := bind_eq_ok_iff.1 h
    obtain ⟨scope, -, rfl⟩ := map_eq_ok_iff.1 h
    exact absurd closed (not_isClosed shape (by decide))
  case urlName =>
    obtain ⟨⟨word, tail⟩, -, h⟩ := bind_eq_ok_iff.1 h
    obtain ⟨url, -, rfl⟩ := map_eq_ok_iff.1 h
    exact absurd closed (not_isClosed (s := .urlName) rfl (by decide))
  case url =>
    obtain ⟨⟨word, tail⟩, found, h⟩ := bind_eq_ok_iff.1 h
    obtain ⟨url, read, h⟩ := bind_eq_ok_iff.1 h
    obtain rfl := eq_of_ending h
    obtain ⟨tail', found', goesOn'⟩ := readWord_join goesOn found
    exact .bind found' (.bind read (leavesOver_ending (goesOn'.ne_nil more) _))
  case position =>
    obtain ⟨⟨position, tail⟩, found, h⟩ := bind_eq_ok_iff.1 h
    obtain rfl := eq_of_ending h
    obtain ⟨tail', found', goesOn'⟩ := readKeyword_join goesOn found
    exact .bind found' (leavesOver_ending (goesOn'.ne_nil more) _)
  case text =>
    split at h
    · exact absurd h fail_ne_ok
    · obtain rfl := Except.ok.inj h
      exact absurd closed (not_isClosed shape (by decide))
  case color =>
    obtain ⟨⟨word, tail⟩, found, h⟩ := bind_eq_ok_iff.1 h
    obtain ⟨color, read, h⟩ := bind_eq_ok_iff.1 h
    obtain rfl := eq_of_ending h
    obtain ⟨tail', found', goesOn'⟩ := readWord_join goesOn found
    exact .bind found' (.bind read (leavesOver_ending (goesOn'.ne_nil more) _))
  case tagColor => exact leavesOver_readAddTag goesOn more closed h
  case articleScope =>
    obtain ⟨scope, read, rfl⟩ := map_eq_ok_iff.1 h
    exact (leavesOver_readArticleScope goesOn more read).map _
  case targetArticleScope => exact leavesOver_readShow goesOn more h
  case query =>
    split at h
    · exact absurd h fail_ne_ok
    · obtain ⟨q, -, rfl⟩ := map_eq_ok_iff.1 h
      exact absurd closed (not_isClosed shape (by decide))
  case searchTerm => exact leavesOver_readSearch goesOn more before after h
  case sortOrder =>
    unfold readSort at h
    split at h
    · exact absurd h fail_ne_ok
    · split at h
      · exact absurd h fail_ne_ok
      · obtain rfl := Except.ok.inj h
        exact absurd closed (not_isClosed (s := .sortOrder) rfl (by decide))
  case shareTarget =>
    obtain ⟨⟨target, tail⟩, found, h⟩ := bind_eq_ok_iff.1 h
    obtain rfl := eq_of_ending h
    obtain ⟨tail', found', goesOn'⟩ := readWord_join goesOn found
    exact .bind found' (leavesOver_ending (goesOn'.ne_nil more) _)
  case path =>
    split at h
    · exact absurd h fail_ne_ok
    · obtain rfl := Except.ok.inj h
      exact absurd closed (not_isClosed shape (by decide))
  case confirmation =>
    obtain ⟨⟨word, tail⟩, found, h⟩ := bind_eq_ok_iff.1 h
    obtain rfl := eq_of_ending h
    obtain ⟨tail', found', goesOn'⟩ := readWord_join goesOn found
    exact .bind found' (leavesOver_ending (goesOn'.ne_nil more) _)
  case optionalText =>
    obtain rfl := Except.ok.inj h
    exact absurd closed (not_isClosed (s := .optionalText) rfl (by decide))

/-- A command line that goes on behind such a command. The induction is on the length of the line,
since a command stands in the rest of the line of the command around it. -/
theorem leavesOver_read (closed : c.innermost.IsClosed) (h : read .lenient now rest = .ok c) :
    LeavesOver (read · now u) c := by
  induction hn : rest.length using Nat.strong_induction_on generalizing rest u c with
  | _ n ih =>
    obtain ⟨kind, tail, found, h⟩ := exists_of_read h
    obtain ⟨tail', found', goesOn'⟩ := goesOn.splitWord found
    have shorter := Text.length_of_splitWord found
    simp only [read_of_splitWord found' (Eq.refl kind.shape)]
    refine leavesOver_readArguments goesOn' more rfl (Text.isTrimmed_of_splitWord found)
      (Text.isTrimmed_of_splitWord found') closed h fun s s' d bound goesOn closed read => ?_
    exact ih s.length (by omega) goesOn closed read rfl

end More

/-- A command whose arguments have an end of their own is read from its line with more text behind
it too, if reading is lenient, and that text is an error otherwise. -/
theorem read_append_of_isClosed (h : read .lenient now t = .ok c) (closed : c.innermost.IsClosed)
    (more : ¬ IsBlanks x) :
    read .lenient now (t ++ ' ' :: x) = .ok c ∧
      ∃ left, read .eager now (t ++ ' ' :: x) = .error (.own (.nothingExpected left)) := by
  have leavesOver := leavesOver_read (Text.isJoin_space t x) more closed h
  exact ⟨leavesOver.lenient, leavesOver.eager⟩

/-- A search for a quoted string, with a quote and a slash behind it that nothing closes. -/
theorem read_append_of_isClosed_search :
    read .lenient (.ofUtc ⟨0, by decide⟩) "confirm in articles search \"a b\"" =
        .ok (confirm (within .articles (search (some (.verbatim "a b"))))) ∧
      (search (some (.verbatim "a b"))).IsClosed ∧ ¬ IsBlanks "\"c /d" ∧
      read .lenient (.ofUtc ⟨0, by decide⟩)
          (("confirm in articles search \"a b\"" : Text) ++ ' ' :: "\"c /d") =
        .ok (confirm (within .articles (search (some (.verbatim "a b"))))) ∧
      ∃ left, read .eager (.ofUtc ⟨0, by decide⟩)
          (("confirm in articles search \"a b\"" : Text) ++ ' ' :: "\"c /d") =
        .error (.own (.nothingExpected left)) := by
  have found : read .lenient (.ofUtc ⟨0, by decide⟩) "confirm in articles search \"a b\"" =
      .ok (confirm (within .articles (search (some (.verbatim "a b"))))) := by decide +kernel
  have closed : (search (some (.verbatim "a b"))).IsClosed := .inl (by decide)
  have more : ¬ IsBlanks "\"c /d" := fun blanks => absurd (blanks '"' (by decide)) (by decide)
  exact ⟨found, closed, more, read_append_of_isClosed found closed more⟩

end FeedReader.Command
