import FeedReader.Config.KeyBindings
import FeedReader.Log
import FeedReader.Path

/-!
# The configuration

* `Config.Key`: the names of the settings;
* `LabeledQuery`: a query in the feed list;
* `Config`, and `Config.standard`, which holds where nothing is set.
-/

namespace FeedReader

namespace Config

/-- The settings. -/
inductive Key
  | logLevel
  | logFile
  | database
  | defaultOrder
  | articleScope
  | feedListScope
  | syncInterval
  | startupCommands
  | afterSyncCommands
  | keyBindings
  | feedList
  | shareTargets
  deriving DecidableEq

namespace Key

/-- The name of a setting. -/
def name : Key → Text
  | logLevel => "log_level"
  | logFile => "log_file"
  | database => "db_path"
  | defaultOrder => "default_sort_order"
  | articleScope => "article_scope"
  | feedListScope => "feed_list_scope"
  | syncInterval => "sync_every_minutes"
  | startupCommands => "startup_commands"
  | afterSyncCommands => "after_sync_commands"
  | keyBindings => "key_bindings"
  | feedList => "feed_list"
  | shareTargets => "share_targets"

/-- All settings. -/
def list : List Key :=
  [logLevel, logFile, database, defaultOrder, articleScope, feedListScope, syncInterval,
   startupCommands, afterSyncCommands, keyBindings, feedList, shareTargets]

/-- The setting with a name. -/
def ofName? (t : Text) : Option Key := list.find? (·.name = t)

@[simp] theorem ofName?_name (k : Key) : ofName? k.name = some k := by cases k <;> decide

end Key

end Config

/-- A query in the feed list, by the text that it is written with. -/
structure LabeledQuery where
  label : Text
  query : Text
  deriving DecidableEq

/-- What a query of the feed list comes to at a time. -/
def LabeledQuery.split (q : LabeledQuery) (now : Moment) : Query.Result SplitQuery :=
  SplitQuery.read q.query now

/-- The settings of the program. -/
structure Config where
  logLevel : Log.Severity
  logFile : Option Text
  database : Path
  defaultOrder : SortOrder
  articleScope : ArticleScope
  feedListScope : ArticleScope
  syncInterval : Option Nat
  startupCommands : List Command
  afterSyncCommands : List Command
  keyBindings : KeyBindings
  feedList : List LabeledQuery
  shareTargets : List Text

namespace Config

/-- Where the configuration is looked for. -/
def standardFile (home : Path) : Path := home.append [".config", "feedterm", "config.yaml"]

/-- Where the articles are stored. -/
def standardDatabase (home : Path) : Path := home.append [".feedterm", "feedterm.db"]

/-- From the newest article to the oldest one. -/
def newestFirst : SortOrder := ⟨[⟨.date, .ascending⟩], by decide⟩

/-- The queries that the feed list starts with. -/
def standardFeedList : List LabeledQuery :=
  [⟨"Today Unread", "today unread"⟩, ⟨"Today Marked", "today marked"⟩]

/-- The configuration that holds where nothing is set. -/
def standard (home : Path) : Config :=
  { logLevel := .warning
    logFile := none
    database := standardDatabase home
    defaultOrder := newestFirst
    articleScope := .unread
    feedListScope := .all
    syncInterval := none
    startupCommands := []
    afterSyncCommands := []
    keyBindings := KeyBindings.builtin
    feedList := standardFeedList
    shareTargets := ["clipboard"] }

end Config

end FeedReader
