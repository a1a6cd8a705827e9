import FeedReader.Command.Kind
import FeedReader.SortOrder

/-!
# Help entries

* `Hint.Entry`: a word that may be typed, with its usage and what it means;
* `Hint.Entry.ofCommands`, `ofQuery`, …: the entries for each kind of word.
-/

namespace FeedReader.Hint

/-- A word that may be typed. -/
structure Entry where
  keyword : Text
  usage : Text
  detail : Text
  deriving DecidableEq

namespace Entry

/-- The entry of a word that is its own usage. -/
def plain (keyword detail : Text) : Entry := ⟨keyword, keyword, detail⟩

/-- All commands. -/
def ofCommands : List Entry := Command.Kind.list.map fun k => ⟨k.keyword, k.usage, k.detail⟩

/-- The keywords of queries. -/
def ofQuery : List Entry := Query.Keyword.list.map fun k => ⟨k.literal, k.usage, k.detail⟩

/-- The forms of search terms. -/
def ofSearchTerm : List Entry :=
  [plain "<word>" "word to search for in all fields", plain "\"<text>\"" "verbatim text",
    plain "/<regex>/" "regular expression"]

/-- The directions and fields of sort orders. -/
def ofSortOrder : List Entry :=
  [⟨[SortDirection.ascending.symbol], "<key", "ascending order"⟩,
    ⟨[SortDirection.descending.symbol], ">key", "descending order"⟩] ++
    SortField.list.map fun f => plain f.keyword f.detail

/-- The panels. -/
def ofPanels : List Entry := Panel.list.map fun p => ⟨p.keyword, p.label, p.detail⟩

/-- The targets of actions. -/
def ofTargets : List Entry := ActionTarget.list.map fun t => plain t.keyword t.detail

/-- The scopes of actions. -/
def ofScopes : List Entry :=
  [plain ActionScope.currentSign "currently selected item", plain ActionScope.allSign "all items",
    plain ActionScope.querySign "all articles defined by a query"]

/-- The scopes of article lists. -/
def ofArticleScopes : List Entry := ArticleScope.list.map fun s => plain s.keyword s.detail

/-- The positions of pasting. -/
def ofPositions : List Entry := PastePosition.list.map fun p => plain p.keyword p.detail

/-- The names of the sixteen standard colors. -/
def standardColors : List Text :=
  ["black", "red", "green", "yellow", "blue", "magenta", "cyan", "white", "bright_black",
    "bright_red", "bright_green", "bright_yellow", "bright_blue", "bright_magenta", "bright_cyan",
    "bright_white"]

/-- The standard colors and an example of the others. -/
def ofColors : List Entry :=
  standardColors.map (plain · "standard color") ++ [⟨"#ffffff", "#rrggbb", "hex color"⟩]

/-- The tags, with their colors. -/
def ofTags (tags : List Tag) : List Entry :=
  tags.map fun t => ⟨t.label, '#' :: t.label, t.color.getD []⟩

/-- The targets of sharing. -/
def ofShareTargets (targets : List Text) : List Entry := targets.map (plain · "share target")

end Entry

end FeedReader.Hint
