import FeedReader.Command
import FeedReader.Command.Error
import FeedReader.Query.Reader
import FeedReader.Text.Blank

/-!
# Reading command lines

The first word of a line names the command; its arguments are read from the rest of the line. Where
the arguments are complete, an eager reader refuses what is left over and a lenient one ignores it.
Commands within commands are read to any depth here; `Command.readBounded` keeps to a limit.

* `ActionScope.read`;
* `Command.Mode`, `Command.Result`;
* `readPanel`, `readScope`, …: reading single arguments;
* `Command.readArguments`, which goes by the shape of a command, and `Command.read`.
-/

namespace FeedReader

/-- Reads a scope: the sign for the current article or for all articles, or a query. -/
def ActionScope.read (now : Moment) (t : Text) : Query.Result ActionScope :=
  if t = currentSign then .ok .current
  else if t = allSign then .ok .all
  else (Query.read t now).map .query

namespace Command

/-- What happens to text after the last argument. -/
inductive Mode
  | eager
  | lenient
  deriving DecidableEq

/-- The result of reading. -/
abbrev Result (α : Type) := Except (Failure Error) α

/-- An error of the command line. -/
def fail {α : Type} (e : Error) : Result α := .error (.own e)

/-- The value, if nothing is left over that matters. -/
def ending {α : Type} (mode : Mode) (rest : Text) (value : α) : Result α :=
  if mode = .eager ∧ rest ≠ [] then fail (.nothingExpected rest) else .ok value

/-! ### Single arguments -/

/-- Reads a query; errors of its own language become the cause of one of the command line. -/
def readQuery (now : Moment) (t : Text) : Result Query :=
  (Query.read t now).mapError (·.map .queryExpected)

/-- Reads a scope; none given is the current article. -/
def readScope (now : Moment) (t : Text) : Result ActionScope :=
  if t = [] then .ok .current
  else (ActionScope.read now t).mapError (·.map .queryExpected)

/-- Reads a word for one of the values that have one, and gives back what follows it. -/
def readKeyword {α : Type} (ofKeyword? : Text → Option α) (expected : Option Text → Error)
    (t : Text) : Result (α × Text) :=
  match Text.splitWord t with
  | none => fail (expected none)
  | some (word, rest) =>
    match ofKeyword? word with
    | none => fail (expected (some word))
    | some value => .ok (value, rest)

/-- Reads a panel, and gives back what follows it. -/
def readPanel (t : Text) : Result (Panel × Text) := readKeyword Panel.ofKeyword? .panelExpected t

theorem length_of_readKeyword {α : Type} {ofKeyword? : Text → Option α}
    {expected : Option Text → Error} {t : Text} {value : α} {rest : Text}
    (h : readKeyword ofKeyword? expected t = .ok (value, rest)) : rest.length < t.length := by
  unfold readKeyword at h
  split at h
  · simp [fail] at h
  · next found =>
    split at h
    · simp [fail] at h
    · simp only [Except.ok.injEq, Prod.mk.injEq] at h
      exact h.2 ▸ Text.length_of_splitWord found

/-- The color that a word stands for. -/
def readColor (word : Text) : Result Color :=
  match Color.read word with
  | .ok color => .ok color
  | .error .notColor => fail (.colorExpected (some word))
  | .error .amountMissing => .error (.mishap .amountMissing)

/-- The address that a word stands for. -/
def readUrl (word : Text) : Result Url :=
  match Url.read word with
  | .ok url => .ok url
  | .error .notAddress => fail (.urlExpected (some word))
  | .error (.hostName e) => .error (.mishap (.hostName e))

/-- Reads an article scope at the end of a line. -/
def readArticleScope (mode : Mode) (t : Text) : Result ArticleScope := do
  let (scope, rest) ← readKeyword ArticleScope.ofKeyword? .articleScopeExpected t
  ending mode rest scope

/-- Reads any word, and gives back what follows it. -/
def readWord (missing : Error) (t : Text) : Result (Text × Text) :=
  match Text.splitWord t with
  | none => fail missing
  | some found => .ok found

/-! ### Arguments of each shape -/

/-- Reads a target, which may be left out, and a scope. -/
def readSetRead (now : Moment) (rest : Text) : Result Command :=
  match (Text.splitWord rest).map fun (word, tail) => (ActionTarget.ofKeyword? word, tail) with
  | some (some target, tail) => (readScope now tail).map (.setRead target)
  | _ => (readScope now rest).map (.setRead .current)

/-- Reads a tag and perhaps a color. -/
def readAddTag (mode : Mode) (rest : Text) : Result Command := do
  let (tag, rest) ← readWord .tagExpected rest
  match Text.splitWord rest with
  | none => return .addTag tag none
  | some (word, rest) => do
    let color ← readColor word
    ending mode rest (.addTag tag (some color))

/-- Reads a target, which may be left out, and an article scope. -/
def readShow (mode : Mode) (rest : Text) : Result Command :=
  match Text.splitWord rest with
  | none => fail .targetOrArticleScopeExpected
  | some (word, tail) =>
    match ActionTarget.ofKeyword? word with
    | some target => (readArticleScope mode tail).map (.showArticles target)
    | none => (readArticleScope mode rest).map (.showArticles .current)

/-- Reads a search term, which may stand before other text only in a lenient reading. -/
def readSearch (mode : Mode) (rest : Text) : Result Command :=
  match (Query.Cursor.start rest).next with
  | (none, _) => fail (.searchTermExpected none)
  | (some x, after) =>
    match Query.SearchTerm.ofLexeme x with
    | .error e => fail (.searchTermExpected (some e))
    | .ok term => ending mode (Text.trim after.rest) (.search (some term))

/-- Reads a sort order. -/
def readSort (rest : Text) : Result Command :=
  if rest = [] then fail (.sortOrderExpected ⟨.directionOrKeyExpected, 0, []⟩)
  else
    match SortOrder.read rest with
    | .error e => fail (.sortOrderExpected e)
    | .ok o => .ok (.sort o)

/-! ### Command lines -/

mutual

/-- Reads the arguments of a command from what follows its first word. -/
def readArguments (mode : Mode) (now : Moment) (kind : Kind) (rest : Text) :
    (s : Shape) → kind.shape = s → Result Command
  | .nothing, shape => ending mode rest (.plain kind shape)
  | .panel, _ => do
    let (panel, tail) ← readPanel rest
    ending mode tail (.focus panel)
  | .panelCommand, _ =>
    match _h : readPanel rest with
    | .error e => .error e
    | .ok (panel, tail) =>
      if tail = [] then fail .commandExpected else (read mode now tail).map (.within panel)
  | .command, _ =>
    if rest = [] then fail .commandExpected else (read mode now rest).map .confirm
  | .targetScope, _ => readSetRead now rest
  | .scope, shape => (readScope now rest).map (.onScope kind shape)
  | .tagScope, shape => do
    let (tag, tail) ← readWord .tagExpected rest
    (readScope now tail).map (.onTag kind shape tag)
  | .urlName, _ => do
    let (word, tail) ← readWord (.urlExpected none) rest
    (readUrl word).map fun url => .addFeed url (Text.nonempty? tail)
  | .url, _ => do
    let (word, tail) ← readWord (.urlExpected none) rest
    let url ← readUrl word
    ending mode tail (.changeFeedUrl url)
  | .position, _ => do
    let (position, tail) ← readKeyword PastePosition.ofKeyword? .positionExpected rest
    ending mode tail (.paste position)
  | .text, shape =>
    if rest = [] then fail (.somethingExpected kind.usage) else .ok (.named kind shape rest)
  | .color, _ => do
    let (word, tail) ← readWord (.colorExpected none) rest
    let color ← readColor word
    ending mode tail (.changeTagColor color)
  | .tagColor, _ => readAddTag mode rest
  | .articleScope, _ => (readArticleScope mode rest).map .expandCategories
  | .targetArticleScope, _ => readShow mode rest
  | .query, shape =>
    if rest = [] then fail (.queryExpected ⟨.keyOrWordExpected, 0, []⟩)
    else (readQuery now rest).map (.onQuery kind shape)
  | .searchTerm, _ => readSearch mode rest
  | .sortOrder, _ => readSort rest
  | .shareTarget, _ => do
    let (target, tail) ← readWord .shareTargetExpected rest
    ending mode tail (.share target)
  | .path, shape => if rest = [] then fail .pathExpected else .ok (.onFile kind shape rest)
  | .confirmation, _ => do
    let (word, tail) ← readWord .confirmationExpected rest
    ending mode tail (.logout word)
  | .optionalText, _ => .ok (.commandLine (Text.nonempty? rest))
termination_by 2 * rest.length + 1
decreasing_by
  · have := length_of_readKeyword _h
    omega
  · omega

/-- Reads a command line. -/
def read (mode : Mode) (now : Moment) (t : Text) : Result Command :=
  match _h : Text.splitWord t with
  | none => fail (.commandNameExpected [])
  | some (word, rest) =>
    match Kind.ofKeyword? word with
    | none => fail (.commandNameExpected word)
    | some kind => readArguments mode now kind rest kind.shape rfl
termination_by 2 * t.length
decreasing_by
  have := Text.length_of_splitWord _h
  omega

end

end Command

end FeedReader
