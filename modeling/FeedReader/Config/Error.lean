import FeedReader.Config

/-!
# Errors of a configuration

* `Config.Error`: what is wrong with a configuration;
* `Config.Error.message`.
-/

namespace FeedReader.Config

/-- What is wrong with a configuration. -/
inductive Error
  | unreadable (file : Path)
  | mapExpected (file : Path)
  | unknownKeys (names : List Text)
  | logLevel (given : Value)
  | homeUnknown
  | defaultOrder (cause : SortOrder.Error)
  | articleScope (key : Key)
  | syncInterval
  | commandsExpected (key : Key)
  | command (key : Key) (line : Text) (cause : Command.Error)
  | keyBindings
  | feedList
  | feedListEntry (given : Value)
  | feedListQuery (entry : LabeledQuery) (cause : Query.Error)
  | shareTargets

/-- A name between single quotes. -/
def enclosed (name : Text) : Text := '\'' :: (name ++ ['\''])

/-- The names of all article scopes. -/
def scopeNames : Text := Text.joinWith ", " (ArticleScope.list.map ArticleScope.keyword)

/-- The wording of an error. -/
def Error.message : Error → Text
  | unreadable file => "Config file " ++ file.text ++ " is not valid YAML"
  | mapExpected file => "Config file " ++ file.text ++ " must contain a mapping"
  | unknownKeys names =>
    "Unknown configuration keys: " ++ (Value.list (names.map Value.text)).shown
  | logLevel given => "Invalid log_level " ++ enclosed given.toText
  | homeUnknown => "Could not determine home directory."
  | defaultOrder cause => "invalid default_sort_order: " ++ cause.message
  | articleScope key => enclosed key.name ++ " must be one of: " ++ scopeNames
  | syncInterval => "sync_every_minutes must at least be 1"
  | commandsExpected key => enclosed key.name ++ " must be a list of command strings"
  | command key line cause =>
    "invalid command " ++ Text.quoted line ++ " in " ++ enclosed key.name ++ ": " ++ cause.message
  | keyBindings => "'key_bindings' must be a mapping of key sequences to commands"
  | feedList => "'feed_list' must be a list of \x7blabel, query\x7d mappings"
  | feedListEntry given =>
    "feed list entry must have exactly 'label' and 'query', got: " ++ given.toText
  | feedListQuery entry cause =>
    "invalid query " ++ Text.quoted entry.query ++ " for feed list entry " ++
      Text.quoted entry.label ++ ": " ++ cause.message
  | shareTargets => "'share_targets' must be a list of single words"

end FeedReader.Config
