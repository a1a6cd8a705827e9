import FeedReader.Config.Error

/-!
# Reading a configuration

The settings are read in a fixed order, and the first error counts. The warnings are those about key
bindings, which are read only if all is well up to there.

* `readPlain`: the settings before the key bindings;
* `readKeyBindings`;
* `readLists`: the settings after the key bindings;
* `Config.ofEntries`.
-/

namespace FeedReader.Config

/-- The result of reading. -/
abbrev Result (α : Type) := Except (Failure Error) α

/-- An error of the configuration. -/
def fail {α : Type} (e : Error) : Result α := .error (.own e)

/-- The named settings of a configuration file. -/
abbrev Entries := List (Text × Value)

/-! ### Single settings -/

/-- The names that are not those of settings, in order. -/
def unknownNames (entries : Entries) : List Text :=
  ((entries.map (·.1)).filter fun t => (Key.ofName? t).isNone).mergeSort fun a b =>
    Text.compare a b != .gt

/-- Reads a severity, in any case of letters. -/
def readLogLevel (v : Value) : Result Log.Severity :=
  match Log.Severity.ofName? (Text.upper v.toText) with
  | some s => .ok s
  | none => fail (.logLevel v)

/-- Reads a path, with the home directory in place of a tilde. -/
def readPath (home : Path) (v : Value) : Result Path :=
  match (Path.ofText v.toText).expand? home with
  | some p => .ok p
  | none => fail .homeUnknown

/-- Reads a sort order. -/
def readOrder (v : Value) : Result SortOrder :=
  (SortOrder.read v.toText).mapError fun e => .own (.defaultOrder e)

/-- Reads an article scope. -/
def readScope (key : Key) (v : Value) : Result ArticleScope :=
  match v.text?.bind ArticleScope.ofKeyword? with
  | some s => .ok s
  | none => fail (.articleScope key)

/-- Reads a number of minutes, which is at least one. -/
def readInterval (v : Value) : Result Nat :=
  match v with
  | .integer n => if 1 ≤ n then .ok n.toNat else fail .syncInterval
  | _ => fail .syncInterval

/-- Reads a list of commands. -/
def readCommands (now : Moment) (key : Key) (v : Value) : Result (List Command) :=
  match v.texts? with
  | none => fail (.commandsExpected key)
  | some lines => lines.mapM fun line =>
      (Command.readBounded .eager now line).mapError (·.map (.command key line))

/-- The value of a setting that is there, and otherwise a default. -/
def readOr {α : Type} (entries : Entries) (key : Key) (default : α) (read : Value → Result α) :
    Result α :=
  match find? entries key.name with
  | some v => read v
  | none => .ok default

/-- The value of a setting that is there and is not null, and otherwise a default. -/
def readGivenOr {α : Type} (entries : Entries) (key : Key) (default : α) (read : Value → Result α) :
    Result α :=
  match given? entries key.name with
  | some v => read v
  | none => .ok default

/-! ### Groups of settings -/

/-- Reads the settings before the key bindings. -/
def readPlain (now : Moment) (home : Path) (entries : Entries) : Result Config := do
  let base := standard home
  let unknown := unknownNames entries
  if unknown ≠ [] then fail (.unknownKeys unknown)
  else
    let logLevel ← readOr entries .logLevel base.logLevel readLogLevel
    let logFile ← readGivenOr entries .logFile base.logFile fun v => .ok (some v.toText)
    let database ← readGivenOr entries .database base.database (readPath home)
    let defaultOrder ← readOr entries .defaultOrder base.defaultOrder readOrder
    let articleScope ← readOr entries .articleScope base.articleScope (readScope .articleScope)
    let feedListScope ← readOr entries .feedListScope base.feedListScope (readScope .feedListScope)
    let syncInterval ← readGivenOr entries .syncInterval base.syncInterval
      fun v => (readInterval v).map some
    let startupCommands ← readOr entries .startupCommands base.startupCommands
      (readCommands now .startupCommands)
    let afterSyncCommands ← readOr entries .afterSyncCommands base.afterSyncCommands
      (readCommands now .afterSyncCommands)
    return { base with
      logLevel, logFile, database, defaultOrder, articleScope, feedListScope, syncInterval,
      startupCommands, afterSyncCommands }

/-- Reads the key bindings, which are laid over the built-in ones, and warns of those that are
dropped. -/
def readKeyBindings (now : Moment) (entries : Entries) :
    Result KeyBindings × List KeyBindings.Warning :=
  match find? entries Key.keyBindings.name with
  | none => (.ok KeyBindings.builtin, [])
  | some v =>
    match v with
    | .map own =>
      match KeyBindings.read now own with
      | (.ok bindings, warnings) => (.ok bindings.merge, warnings)
      | (.error m, warnings) => (.error (.mishap m), warnings)
    | v => if v.isNothing then (.ok (KeyBindings.merge []), []) else (fail .keyBindings, [])

/-- Reads an entry of the feed list, whose query has to be one. -/
def readLabeledQuery (now : Moment) (v : Value) : Result LabeledQuery :=
  match v with
  | .map entries =>
    match find? entries "label", find? entries "query" with
    | some label, some query =>
      if entries.length = 2 then
        let entry : LabeledQuery := ⟨label.toText, query.toText⟩
        match entry.split now with
        | .ok _ => .ok entry
        | .error e => .error (e.map (.feedListQuery entry))
      else fail (.feedListEntry v)
    | _, _ => fail (.feedListEntry v)
  | v => fail (.feedListEntry v)

/-- Reads the feed list. -/
def readFeedList (now : Moment) (v : Value) : Result (List LabeledQuery) :=
  match v with
  | .list items => items.mapM (readLabeledQuery now)
  | _ => fail .feedList

/-- Reads the targets of sharing, each of which is a word. -/
def readShareTargets (v : Value) : Result (List Text) :=
  match v.texts? with
  | some targets =>
    if targets.all fun t => Text.words t = [t] then .ok targets else fail .shareTargets
  | none => fail .shareTargets

/-- Reads the settings after the key bindings. -/
def readLists (now : Moment) (entries : Entries) (config : Config) : Result Config := do
  let feedList ← readOr entries .feedList config.feedList (readFeedList now)
  let shareTargets ← readOr entries .shareTargets config.shareTargets readShareTargets
  return { config with feedList, shareTargets }

/-- The configuration with the given settings, and the warnings about it. -/
def ofEntries (now : Moment) (home : Path) (entries : Entries) :
    Result Config × List KeyBindings.Warning :=
  match readPlain now home entries with
  | .error e => (.error e, [])
  | .ok config =>
    let (bindings, warnings) := readKeyBindings now entries
    (bindings.bind fun b => readLists now entries { config with keyBindings := b }, warnings)

end FeedReader.Config
