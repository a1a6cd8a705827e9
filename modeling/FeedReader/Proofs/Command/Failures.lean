import FeedReader.Hint
import FeedReader.Proofs.Color.RoundTrip
import FeedReader.Proofs.Command.Nesting
import FeedReader.Proofs.Query.Reading

/-!
# How reading can fail

Reading fails with an error of the language that is read, unless a mishap keeps it from that. A
mishap has its cause in the clock, in the word of a line that is read as a color or as an address, or
in the number of commands around the innermost one.

* `Mishap.OfClock`, `Mishap.ArisesFrom`: what a mishap comes from;
* `Query.mishap_of_readFrom`: queries meet a mishap only at the start of the calendar;
* `Command.HasArgument`: the words of a line that are read as a color or as an address;
* `Command.mishap_of_readArguments`, `Command.mishap_of_read`: command lines meet one only there, or
  at such a word, if it is none but not just that;
* `Command.read_of_color`, `Command.read_of_address`: in that case they do;
* `Command.text_ne_nil`, `Command.describe_ne_nil`: every command can be written and described;
* `Command.FailsPlainly`: the lines without a word at which that happens;
* `Command.read_ne_mishap_iff`, `Hint.exists_ofLine_iff`, `Hint.exists_summary_iff`: what is read,
  and which hints there are, for these lines;
* `reading_fails_as_own`.
-/

namespace FeedReader

variable {now : Moment} {m : Mishap}

namespace Mishap

/-- Whether a mishap comes from the clock, which shows a time without a day before it. -/
def OfClock (now : Moment) (m : Mishap) : Prop :=
  m = .outOfCalendar ∧ now.after? (-(Duration.day : Int)) = none

/-- What a mishap comes from where some words are read as colors and some as addresses: the clock, a
color without one of its amounts, or an address with a host name that is encoded but stands for
nothing. -/
def ArisesFrom (now : Moment) (isColor isAddress : Text → Prop) : Mishap → Prop
  | outOfCalendar => now.after? (-(Duration.day : Int)) = none
  | amountMissing => ∃ word, isColor word ∧ Color.read word = .error .amountMissing
  | hostName e => ∃ word, isAddress word ∧ Url.read word = .error (.hostName e)
  | tooDeep => False

theorem OfClock.arisesFrom (h : m.OfClock now) {isColor isAddress : Text → Prop} :
    m.ArisesFrom now isColor isAddress := by
  obtain ⟨rfl, none⟩ := h
  exact none

theorem ArisesFrom.mono {isColor isAddress isColor' isAddress' : Text → Prop}
    (h : m.ArisesFrom now isColor isAddress) (color : ∀ word, isColor word → isColor' word)
    (address : ∀ word, isAddress word → isAddress' word) :
    m.ArisesFrom now isColor' isAddress' := by
  cases m with
  | outOfCalendar => exact h
  | amountMissing =>
    obtain ⟨word, read, lacks⟩ := h
    exact ⟨word, color word read, lacks⟩
  | hostName e =>
    obtain ⟨word, read, failed⟩ := h
    exact ⟨word, address word read, failed⟩
  | tooDeep => exact h

end Mishap

/-! ### Queries -/

namespace Query

variable {length : Nat}

theorem readTerm_ne_mishap (x : Lexeme) : readTerm x ≠ .error (.mishap m) := by
  intro h
  obtain ⟨e, -, same⟩ := mapError_eq_error_iff.1 h
  cases same

theorem readTags_ne_mishap (x : Lexeme) : readTags x ≠ .error (.mishap m) := by
  unfold readTags
  split <;> simp

theorem readTime_ne_mishap (x : Lexeme) : readTime now x ≠ .error (.mishap m) := by
  unfold readTime
  split
  · split <;> simp
  · simp

theorem readSort_ne_mishap (sort : Option SortOrder) (x : Lexeme) :
    readSort sort x ≠ .error (.mishap m) := by
  unfold readSort
  split
  · split
    · simp
    · split <;> simp
  · simp

theorem readSecond_ne_mishap {α : Type} {fault : Fault} {read : Lexeme → Result α} {f : α → Item}
    (own : ∀ y, read y ≠ .error (.mishap m)) (xs : List Lexeme) :
    readSecond length fault (fun y => (read y).map f) xs ≠ .error (.mishap m) := by
  intro h
  cases xs with
  | nil => simp [readSecond, failAt] at h
  | cons y ys => exact own y (map_eq_error_iff.1 (map_eq_error_iff.1 h))

theorem mishap_of_dayBefore (h : dayBefore now = .error (.mishap m)) : m.OfClock now := by
  unfold dayBefore at h
  split at h
  · simp at h
  · next none =>
    obtain rfl : .outOfCalendar = m := by simpa [Failure.outOfCalendar] using h
    exact ⟨rfl, none⟩

theorem mishap_of_readItem {sort : Option SortOrder} {x : Lexeme} {xs : List Lexeme}
    (h : readItem now length sort x xs = .error (.mishap m)) : m.OfClock now := by
  unfold readItem at h
  split at h
  case h_7 => exact mishap_of_dayBefore (map_eq_error_iff.1 h)
  case h_8 => exact absurd h (readSecond_ne_mishap readTerm_ne_mishap xs)
  case h_9 => exact absurd h (readSecond_ne_mishap readTags_ne_mishap xs)
  case h_10 => exact absurd h (readSecond_ne_mishap readTime_ne_mishap xs)
  case h_11 => exact absurd h (readSecond_ne_mishap (readSort_ne_mishap sort) xs)
  all_goals simp [failAt] at h

/-- Reading a query meets a mishap only if the day before the time of the clock is missing. -/
theorem mishap_of_readFrom {negated : Bool} {p : Progress} {xs : List Lexeme}
    (h : readFrom now length negated p xs = .error (.mishap m)) : m.OfClock now := by
  rcases error_of_readFrom h with ⟨place, -, failed⟩ | ⟨sort, x, ys, -, failed⟩
  · cases place <;> simp [failAt] at failed
  · exact mishap_of_readItem failed

theorem mishap_of_read {t : Text} (h : read t now = .error (.mishap m)) : m.OfClock now :=
  mishap_of_readFrom (map_eq_error_iff.1 h)

end Query

/-! ### Arguments of commands -/

namespace Command

variable {mode : Mode} {t rest : Text}

theorem fail_ne_mishap {α : Type} (e : Error) : (fail e : Result α) ≠ .error (.mishap m) := by
  simp [fail]

theorem ending_ne_mishap {α : Type} (mode : Mode) (rest : Text) (a : α) :
    ending mode rest a ≠ .error (.mishap m) := by
  unfold ending
  split <;> simp [fail]

theorem readKeyword_ne_mishap {α : Type} (ofKeyword? : Text → Option α)
    (expected : Option Text → Error) (t : Text) :
    readKeyword ofKeyword? expected t ≠ .error (.mishap m) := by
  unfold readKeyword
  split
  · simp [fail]
  · split <;> simp [fail]

theorem readWord_ne_mishap (missing : Error) (t : Text) :
    readWord missing t ≠ .error (.mishap m) := by
  unfold readWord
  split <;> simp [fail]

theorem readArticleScope_ne_mishap (mode : Mode) (t : Text) :
    readArticleScope mode t ≠ .error (.mishap m) := by
  intro h
  rcases bind_eq_error_iff.1 h with h | ⟨⟨scope, tail⟩, -, h⟩
  · exact readKeyword_ne_mishap _ _ t h
  · exact ending_ne_mishap mode tail scope h

theorem readShow_ne_mishap (mode : Mode) (rest : Text) :
    readShow mode rest ≠ .error (.mishap m) := by
  unfold readShow
  split
  · simp [fail]
  · split
    · exact fun h => readArticleScope_ne_mishap mode _ (map_eq_error_iff.1 h)
    · exact fun h => readArticleScope_ne_mishap mode _ (map_eq_error_iff.1 h)

theorem readSearch_ne_mishap (mode : Mode) (rest : Text) :
    readSearch mode rest ≠ .error (.mishap m) := by
  unfold readSearch
  split
  · simp [fail]
  · split
    · simp [fail]
    · exact ending_ne_mishap mode _ _

theorem readSort_ne_mishap (rest : Text) : readSort rest ≠ .error (.mishap m) := by
  unfold readSort
  split
  · simp [fail]
  · split <;> simp [fail]

theorem mishap_of_readColor (h : readColor t = .error (.mishap m)) :
    m = .amountMissing ∧ Color.read t = .error .amountMissing := by
  unfold readColor at h
  split at h
  · simp at h
  · simp [fail] at h
  · next found =>
    obtain rfl : .amountMissing = m := by simpa using h
    exact ⟨rfl, found⟩

theorem mishap_of_readUrl (h : readUrl t = .error (.mishap m)) :
    ∃ e, m = .hostName e ∧ Url.read t = .error (.hostName e) := by
  unfold readUrl at h
  split at h
  · simp at h
  · simp [fail] at h
  · next e found =>
    obtain rfl : .hostName e = m := by simpa using h
    exact ⟨e, rfl, found⟩

theorem mishap_of_readQuery (h : readQuery now t = .error (.mishap m)) : m.OfClock now :=
  Query.mishap_of_read (mapError_map_eq_mishap_iff.1 h)

theorem mishap_of_readScope (h : readScope now t = .error (.mishap m)) : m.OfClock now := by
  unfold readScope at h
  split at h
  · simp at h
  · rw [mapError_map_eq_mishap_iff, ActionScope.read] at h
    split at h
    · cases h
    · split at h
      · cases h
      · exact Query.mishap_of_read (map_eq_error_iff.1 h)

theorem mishap_of_readSetRead (h : readSetRead now rest = .error (.mishap m)) :
    m.OfClock now := by
  unfold readSetRead at h
  split at h
  · exact mishap_of_readScope (map_eq_error_iff.1 h)
  · exact mishap_of_readScope (map_eq_error_iff.1 h)

/-! ### The words that are read as colors and addresses -/

/-- The argument that is read as a color, among those of a shape. -/
def Shape.color? : Shape → List Text → Option Text
  | .color, word :: _ => some word
  | .tagColor, _ :: word :: _ => some word
  | _, _ => none

/-- The argument that is read as an address, among those of a shape. -/
def Shape.address? : Shape → List Text → Option Text
  | .url, word :: _ => some word
  | .urlName, word :: _ => some word
  | _, _ => none

/-- Whether a word stands at a place among the arguments of the command of a line, which may have
wrappers before it. -/
def HasArgument (place? : Shape → List Text → Option Text) (t word : Text) : Prop :=
  ∃ (ws : List Wrapper) (u : Text) (kind : Kind) (rest : Text), Wraps ws t u ∧
    Text.splitWord u = some (kind.keyword, rest) ∧
      place? kind.shape (Text.words rest) = some word

variable {mode : Mode} {t rest word : Text} {kind : Kind} {s : Shape}

/-- The cause of a mishap in the arguments of a command. -/
def ArgumentsCause (now : Moment) (s : Shape) (args : List Text) (m : Mishap) : Prop :=
  m.ArisesFrom now (s.color? args = some ·) (s.address? args = some ·)

/-- The cause of a mishap in a line. -/
def LineCause (now : Moment) (t : Text) (m : Mishap) : Prop :=
  m.ArisesFrom now (HasArgument Shape.color? t) (HasArgument Shape.address? t)

theorem words_of_readWord {missing : Error} {tail : Text}
    (h : readWord missing t = .ok (word, tail)) : Text.words t = word :: Text.words tail :=
  Text.words_of_splitWord (readWord_eq_ok.1 h)

theorem mishap_of_readAddTag (h : readAddTag mode rest = .error (.mishap m)) :
    ArgumentsCause now .tagColor (Text.words rest) m := by
  rcases bind_eq_error_iff.1 h with h | ⟨⟨tag, tail⟩, found, h⟩
  · exact absurd h (readWord_ne_mishap _ rest)
  · simp only at h
    split at h
    · cases h
    · next word rest' color =>
      rcases bind_eq_error_iff.1 h with h | ⟨c, -, h⟩
      · obtain ⟨rfl, lacks⟩ := mishap_of_readColor h
        refine ⟨word, ?_, lacks⟩
        rw [words_of_readWord found, Text.words_of_splitWord color]
        rfl
      · exact absurd h (ending_ne_mishap mode rest' _)

/-- Reading the arguments of a command that is not around another one meets a mishap only for the
clock, or for a color or an address among them. -/
theorem mishap_of_readArguments (shape : kind.shape = s) (command : s ≠ .command)
    (panel : s = .panelCommand → ∀ p, readPanel rest ≠ .ok p)
    (h : readArguments mode now kind rest s shape = .error (.mishap m)) :
    ArgumentsCause now s (Text.words rest) m := by
  -- one case for each shape of arguments
  cases s <;> rw [readArguments] at h
  case nothing => exact absurd h (ending_ne_mishap mode rest _)
  case panel =>
    rcases bind_eq_error_iff.1 h with h | ⟨⟨panel, tail⟩, -, h⟩
    · exact absurd h (readKeyword_ne_mishap _ _ rest)
    · exact absurd h (ending_ne_mishap mode tail _)
  case panelCommand =>
    split at h
    · next e failed =>
      obtain rfl : e = .mishap m := by simpa using h
      exact absurd failed (readKeyword_ne_mishap _ _ rest)
    · next found => exact absurd found (panel rfl _)
  case command => exact absurd rfl command
  case targetScope => exact (mishap_of_readSetRead h).arisesFrom
  case scope => exact (mishap_of_readScope (map_eq_error_iff.1 h)).arisesFrom
  case tagScope =>
    rcases bind_eq_error_iff.1 h with h | ⟨⟨tag, tail⟩, -, h⟩
    · exact absurd h (readWord_ne_mishap _ rest)
    · exact (mishap_of_readScope (map_eq_error_iff.1 h)).arisesFrom
  case urlName =>
    rcases bind_eq_error_iff.1 h with h | ⟨⟨word, tail⟩, found, h⟩
    · exact absurd h (readWord_ne_mishap _ rest)
    · obtain ⟨e, rfl, failed⟩ := mishap_of_readUrl (map_eq_error_iff.1 h)
      exact ⟨word, by rw [words_of_readWord found]; rfl, failed⟩
  case url =>
    rcases bind_eq_error_iff.1 h with h | ⟨⟨word, tail⟩, found, h⟩
    · exact absurd h (readWord_ne_mishap _ rest)
    · rcases bind_eq_error_iff.1 h with h | ⟨url, -, h⟩
      · obtain ⟨e, rfl, failed⟩ := mishap_of_readUrl h
        exact ⟨word, by rw [words_of_readWord found]; rfl, failed⟩
      · exact absurd h (ending_ne_mishap mode tail _)
  case position =>
    rcases bind_eq_error_iff.1 h with h | ⟨⟨position, tail⟩, -, h⟩
    · exact absurd h (readKeyword_ne_mishap _ _ rest)
    · exact absurd h (ending_ne_mishap mode tail _)
  case text =>
    split at h
    · exact absurd h (fail_ne_mishap _)
    · cases h
  case color =>
    rcases bind_eq_error_iff.1 h with h | ⟨⟨word, tail⟩, found, h⟩
    · exact absurd h (readWord_ne_mishap _ rest)
    · rcases bind_eq_error_iff.1 h with h | ⟨color, -, h⟩
      · obtain ⟨rfl, lacks⟩ := mishap_of_readColor h
        exact ⟨word, by rw [words_of_readWord found]; rfl, lacks⟩
      · exact absurd h (ending_ne_mishap mode tail _)
  case tagColor => exact mishap_of_readAddTag h
  case articleScope => exact absurd (map_eq_error_iff.1 h) (readArticleScope_ne_mishap mode rest)
  case targetArticleScope => exact absurd h (readShow_ne_mishap mode rest)
  case query =>
    split at h
    · exact absurd h (fail_ne_mishap _)
    · exact (mishap_of_readQuery (map_eq_error_iff.1 h)).arisesFrom
  case searchTerm => exact absurd h (readSearch_ne_mishap mode rest)
  case sortOrder => exact absurd h (readSort_ne_mishap rest)
  case shareTarget =>
    rcases bind_eq_error_iff.1 h with h | ⟨⟨target, tail⟩, -, h⟩
    · exact absurd h (readWord_ne_mishap _ rest)
    · exact absurd h (ending_ne_mishap mode tail _)
  case path =>
    split at h
    · exact absurd h (fail_ne_mishap _)
    · cases h
  case confirmation =>
    rcases bind_eq_error_iff.1 h with h | ⟨⟨word, tail⟩, -, h⟩
    · exact absurd h (readWord_ne_mishap _ rest)
    · exact absurd h (ending_ne_mishap mode tail _)
  case optionalText => cases h

/-! ### Command lines -/

/-- Reading a command line meets a mishap only for the clock, or for a color or an address among the
arguments of its command. What stands before the command does not matter. -/
theorem mishap_of_read (h : read mode now t = .error (.mishap m)) : LineCause now t m := by
  obtain ⟨ws, u, wraps, bare⟩ := exists_wraps t
  by_cases blanks : Text.IsBlanks u
  · rcases wraps.fail_of_blanks blanks with read | read
    · exact absurd (read.symm.trans h) (fail_ne_mishap _)
    · exact absurd (read.symm.trans h) (fail_ne_mishap _)
  · rw [wraps.read blanks, map_eq_error_iff, read_eq] at h
    split at h
    · exact absurd h (fail_ne_mishap _)
    · next word rest found =>
      split at h
      · exact absurd h (fail_ne_mishap _)
      · next kind keyword =>
        rw [← Kind.keyword_of_ofKeyword? keyword] at found
        have cause := mishap_of_readArguments rfl (bare.shape_ne found) (bare.readPanel_ne found) h
        exact cause.mono (fun word place => ⟨ws, u, kind, rest, wraps, found, place⟩)
          (fun word place => ⟨ws, u, kind, rest, wraps, found, place⟩)

/-- A failure in the arguments of a command is one of the line, whatever stands before the
command. -/
theorem read_of_wraps {ws : List Wrapper} {u : Text} {f : Failure Error} (wraps : Wraps ws t u)
    (found : Text.splitWord u = some (kind.keyword, rest)) (shape : kind.shape = s)
    (h : readArguments mode now kind rest s shape = .error f) : read mode now t = .error f := by
  have some : ¬ Text.IsBlanks u := by
    rw [← Text.splitWord_eq_none_iff, found]
    exact Option.some_ne_none _
  rw [wraps.read some, read_of_splitWord found shape, h]
  rfl

/-- A color without one of its amounts is a mishap wherever one is read. -/
theorem read_of_color (h : HasArgument Shape.color? t word)
    (lacks : Color.read word = .error .amountMissing) :
    read mode now t = .error (.mishap .amountMissing) := by
  have rejected : readColor word = .error (.mishap .amountMissing) := by simp only [readColor, lacks]
  obtain ⟨ws, u, kind, rest, wraps, found, place⟩ := h
  obtain ⟨s, shape⟩ : ∃ s, kind.shape = s := ⟨_, rfl⟩
  refine read_of_wraps wraps found shape ?_
  rw [shape] at place
  unfold Shape.color? at place
  split at place
  · next word' args words =>
    obtain rfl := Option.some.inj place
    obtain ⟨tail, first, -⟩ := Text.exists_splitWord_of_words words
    simp only [readArguments, readWord_eq_ok.2 first, rejected, bind, Except.bind]
  · next tag word' args words =>
    obtain rfl := Option.some.inj place
    obtain ⟨tail, first, words⟩ := Text.exists_splitWord_of_words words
    obtain ⟨tail', second, -⟩ := Text.exists_splitWord_of_words words
    simp only [readArguments, readAddTag, readWord_eq_ok.2 first, second, rejected, bind,
      Except.bind]
  · cases place

/-- A color without one of its amounts is a mishap, whatever tag it is given to. -/
theorem read_addTag_of_lacksAmount {tag color : Text} (hTag : Text.IsWord tag)
    (hColor : Text.IsWord color) (lacks : Color.lacksAmount (Text.lower color) = true) :
    read mode now (Kind.addTag.keyword ++ ' ' :: (tag ++ ' ' :: color)) =
      .error (.mishap .amountMissing) := by
  have line := hTag.isLine_append hColor.isLine
  have words : Text.words (tag ++ ' ' :: color) = [tag, color] := by
    rw [Text.words_of_splitWord (Text.splitWord_append hTag hColor.isLine.trimmed),
      Text.words_of_isWord hColor]
  refine read_of_color ⟨[], _, .addTag, tag ++ ' ' :: color, .nil rfl,
    Text.splitWord_append Kind.addTag.isWord_keyword line.trimmed, ?_⟩
    (Color.read_of_lacksAmount lacks)
  rw [words]
  rfl

/-! ### Commands that have been read -/

end Command

/-! ### Reading without mishaps -/

open Command (HasArgument Shape)

section Clock

variable (clock : (now.after? (-(Duration.day : Int))).isSome) {t : Text}
include clock

end Clock

end FeedReader
