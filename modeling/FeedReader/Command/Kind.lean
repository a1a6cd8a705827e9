import FeedReader.Command.Vocabulary

/-!
# The catalog of commands

* `Shape`: which arguments a command takes;
* `Kind`: the commands, `Kind.entry` with everything the catalog says about one, and `Kind.list`,
  all of them in the order of the help texts;
* `Kind.ofKeyword?`;
* `Kind.line`: a command line with given arguments;
* `Kind.phrase`: a command in words, with given arguments.
-/

namespace FeedReader.Command

/-- The arguments that a command takes. -/
inductive Shape
  | nothing
  | panel
  | panelCommand
  | command
  | targetScope
  | scope
  | tagScope
  | urlName
  | url
  | position
  | text
  | color
  | tagColor
  | articleScope
  | targetArticleScope
  | query
  | searchTerm
  | sortOrder
  | shareTarget
  | path
  | confirmation
  | optionalText
  deriving DecidableEq

/-- The commands. -/
inductive Kind
  | noOperation
  | up
  | down
  | pageUp
  | pageDown
  | toFirst
  | toLast
  | left
  | right
  | findPrompt
  | abortInput
  | submitInput
  | clearInput
  | focusNext
  | focusPrevious
  | cycleNext
  | cyclePrevious
  | focus
  | distractionFree
  | sync
  | addCategory
  | addFeed
  | changeTagColor
  | rename
  | remove
  | removeAll
  | changeFeedUrl
  | yank
  | paste
  | toggle
  | expandCategories
  | expand
  | collapse
  | collapseAll
  | setRead
  | setUnread
  | mark
  | unmark
  | openInBrowser
  | tagArticles
  | untagArticles
  | addTag
  | nextUnread
  | showArticles
  | scrape
  | searchArticles
  | search
  | searchNext
  | searchPrevious
  | setFilter
  | applyFilter
  | clearFilter
  | sort
  | reverseSort
  | clearSort
  | query
  | share
  | importOpml
  | exportOpml
  | quit
  | commandLine
  | logout
  | helpInput
  | confirm
  | within
  | redraw
  | refresh
  deriving DecidableEq

/-- What the catalog says about a command. -/
structure Entry where
  keyword : Text
  usage : Text
  detail : Text
  shape : Shape

namespace Kind

/-- The catalog. -/
def entry : Kind → Entry
  | noOperation => ⟨"nop", "nop", "no operation (for unmapping key bindings)", .nothing⟩
  | up => ⟨"up", "up", "navigates up in the current context (all)", .nothing⟩
  | down => ⟨"down", "down", "navigates down in the current context (all)", .nothing⟩
  | pageUp => ⟨"pageup", "pageup", "navigates up by several items (all)", .nothing⟩
  | pageDown => ⟨"pagedown", "pagedown", "navigates down by several items (all)", .nothing⟩
  | toFirst => ⟨"gotofirst", "gotofirst", "navigate to first element (all)", .nothing⟩
  | toLast => ⟨"gotolast", "gotolast", "navigate to last element (all)", .nothing⟩
  | left => ⟨"left", "left", "navigate left in the current context (all)", .nothing⟩
  | right => ⟨"right", "right", "navigate right in the current context (all)", .nothing⟩
  | findPrompt => ⟨"_search", "_search", "open prompt to search", .nothing⟩
  | abortInput => ⟨"_abort", "abort", "abort current dialog", .nothing⟩
  | submitInput => ⟨"_submit", "submit", "submit current input", .nothing⟩
  | clearInput => ⟨"_clear", "clear", "clear current input", .nothing⟩
  | focusNext => ⟨"next", "next", "focus next panel until article content (all)", .nothing⟩
  | focusPrevious => ⟨"prev", "prev", "focus previous panel until feed list (all)", .nothing⟩
  | cycleNext => ⟨"nextc", "nextc", "focus next panel, cycling back to feed list (all)", .nothing⟩
  | cyclePrevious =>
    ⟨"prevc", "prevc",
      "focus previous panel, cycling back to article content (all)", .nothing⟩
  | focus => ⟨"focus", "focus <panel>", "focuses the given panel (all)", .panel⟩
  | distractionFree => ⟨"zen", "zen", "toggle distraction-free mode (article content)", .nothing⟩
  | sync => ⟨"sync", "sync", "sync all feeds (feed list)", .nothing⟩
  | addCategory =>
    ⟨"categoryadd", "categoryadd <category name>",
      "add a new category with the given name (feed list)", .text⟩
  | addFeed =>
    ⟨"feedadd", "feedadd <feed URL> [<name>]",
      "add a new feed with the given URL and optional name (feed list)", .urlName⟩
  | changeTagColor =>
    ⟨"tagchangecolor", "tagchangecolor <color>",
      "change the color of the selected tag (feed list)", .color⟩
  | rename => ⟨"rename", "rename <new name>", "rename the selected item (feed list)", .text⟩
  | remove => ⟨"remove", "remove", "remove the selected childless item (feed list)", .nothing⟩
  | removeAll =>
    ⟨"removeall", "removeall",
      "remove the selected item with children (feed list)", .nothing⟩
  | changeFeedUrl =>
    ⟨"feedchangeurl", "feedchangeurl <feed URL>",
      "change URL of the selected feed (feed list)", .url⟩
  | yank =>
    ⟨"yank", "yank",
      "yank the selected item (feed or category) for moving (feed list)", .nothing⟩
  | paste =>
    ⟨"paste", "paste <paste position>",
      "paste the yanked item before/after selected item (feed list)", .position⟩
  | toggle => ⟨"toggle", "toggle", "toggle selected item open/closed (feed list)", .nothing⟩
  | expandCategories =>
    ⟨"expandcategories", "expandcategories <article scope>",
      "expands all categories containing articles of the scope (feed list)", .articleScope⟩
  | expand => ⟨"expand", "expand", "expands current selected item (feed list)", .nothing⟩
  | collapse =>
    ⟨"collapse", "collapse",
      "collapses the currently selected item (feed list)", .nothing⟩
  | collapseAll => ⟨"collapseall", "collapseall", "collapses all items (feed list)", .nothing⟩
  | setRead =>
    ⟨"read", "read [[<target>] <scope>]",
      "set all articles matching the scope in the target to read (feed list, article list)",
      .targetScope⟩
  | setUnread =>
    ⟨"unread", "unread [<scope>]",
      "set all articles matching the scope to unread (feed list, article list)", .scope⟩
  | mark =>
    ⟨"mark", "mark [<scope>]",
      "marks all articles matching the scope (article list)", .scope⟩
  | unmark =>
    ⟨"unmark", "unmark [<scope>]",
      "unmarks all articles matching the scope (article list)", .scope⟩
  | openInBrowser =>
    ⟨"open", "open [<scope>]",
      "opens all articles matching the scope in the web browser (article list)", .scope⟩
  | tagArticles =>
    ⟨"tag", "tag <tag name> [<scope>]",
      "adds the tag to all articles matching the scope (article list)", .tagScope⟩
  | untagArticles =>
    ⟨"untag", "untag <tag name> [<scope>]",
      "removes the tag from all articles matching the scope (article list)", .tagScope⟩
  | addTag =>
    ⟨"tagadd", "tagadd <tag name> [<color>]",
      "adds a new tag with the given name and optional color (feed list)", .tagColor⟩
  | nextUnread => ⟨"nextunread", "nextunread", "select next unread item (article list)", .nothing⟩
  | showArticles =>
    ⟨"show", "show [<target>] <article scope>",
      "show only articles in the article scope (feed list, article list)", .targetArticleScope⟩
  | scrape =>
    ⟨"scrape", "scrape",
      "scrape the current article (article list, article content)", .nothing⟩
  | searchArticles =>
    ⟨"searcharticles", "searcharticles <article query>",
      "search for articles matching the query (article list)", .query⟩
  | search =>
    ⟨"search", "search [<search term>]",
      "search current panel by search term; empty search term to clear search (all)", .searchTerm⟩
  | searchNext => ⟨"searchnext", "searchnext", "search next matching item (all)", .nothing⟩
  | searchPrevious => ⟨"searchprev", "searchprev", "search previous matching item (all)", .nothing⟩
  | setFilter =>
    ⟨"filter", "filter <article query>",
      "filter articles by query (article list)", .query⟩
  | applyFilter => ⟨"filterapply", "filterapply", "apply current filter (article list)", .nothing⟩
  | clearFilter => ⟨"filterclear", "filterclear", "clear current filter (article list)", .nothing⟩
  | sort =>
    ⟨"sort", "sort <sort order>",
      "sort articles according to sort order (article list)", .sortOrder⟩
  | reverseSort =>
    ⟨"sortreverse", "sortreverse",
      "reverse the current sort order (article list)", .nothing⟩
  | clearSort => ⟨"sortclear", "sortclear", "clear the current sort order (article list)", .nothing⟩
  | query =>
    ⟨"query", "query <article query>",
      "executes a query on all articles (article list)", .query⟩
  | share =>
    ⟨"share", "share <target>",
      "shares title and url with target (article list, article content)", .shareTarget⟩
  | importOpml =>
    ⟨"importopml", "importopml <path>",
      "imports an OPML file from the given path (all)", .path⟩
  | exportOpml =>
    ⟨"exportopml", "exportopml <path>",
      "exports an OPML file to the given path (all)", .path⟩
  | quit => ⟨"quit", "quit", "quit feedterm (all)", .nothing⟩
  | commandLine =>
    ⟨"cmd", "cmd [<command line content>]",
      "open command line with optional content (all)", .optionalText⟩
  | logout =>
    ⟨"LOGOUT", "LOGOUT <confirmation>",
      "logout, NOTE: this will remove ALL LOCAL DATA! Pass `NOW` as parameter to confirm.",
      .confirmation⟩
  | helpInput => ⟨"helpinput", "helpinput", "show help on input mappings (all)", .nothing⟩
  | confirm =>
    ⟨"confirm", "confirm <command>",
      "ask user for confirmation and, if positive, execute command (all)", .command⟩
  | within => ⟨"in", "in <panel> <command>", "execute command in the panel", .panelCommand⟩
  | redraw => ⟨"redraw", "redraw", "redraw screen (all)", .nothing⟩
  | refresh =>
    ⟨"refresh", "refresh",
      "refreshes contents of all panels according to selections (all)", .nothing⟩

/-- The first word of a command. -/
def keyword (k : Kind) : Text := k.entry.keyword

/-- A command with its arguments. -/
def usage (k : Kind) : Text := k.entry.usage

/-- What a command does. -/
def detail (k : Kind) : Text := k.entry.detail

/-- The arguments of a command. -/
def shape (k : Kind) : Shape := k.entry.shape

/-- All commands. -/
def list : List Kind :=
  [noOperation, up, down, pageUp, pageDown, toFirst, toLast, left, right, findPrompt, abortInput,
    submitInput, clearInput, focusNext, focusPrevious, cycleNext, cyclePrevious, focus,
    distractionFree, sync, addCategory, addFeed, changeTagColor, rename, remove, removeAll,
    changeFeedUrl, yank, paste, toggle, expandCategories, expand, collapse, collapseAll, setRead,
    setUnread, mark, unmark, openInBrowser, tagArticles, untagArticles, addTag, nextUnread,
    showArticles, scrape, searchArticles, search, searchNext, searchPrevious, setFilter,
    applyFilter, clearFilter, sort, reverseSort, clearSort, query, share, importOpml, exportOpml,
    quit, commandLine, logout, helpInput, confirm, within, redraw, refresh]

theorem mem_list (k : Kind) : k ∈ list := by cases k <;> decide

/-- The command that starts with a word. -/
def ofKeyword? (t : Text) : Option Kind := list.find? (·.keyword = t)

theorem ofKeyword?_keyword (k : Kind) : ofKeyword? k.keyword = some k := by cases k <;> decide

theorem keyword_of_ofKeyword? {t : Text} {k : Kind} (h : ofKeyword? t = some k) :
    k.keyword = t := by
  simpa using List.find?_some h

/-! ### Commands with given arguments -/

/-- The command line of a command whose arguments are written as given; a missing argument is left
out. -/
def line (k : Kind) (arguments : List (Option Text)) : Text :=
  Text.joinWith " " (k.keyword :: arguments.filterMap id)

/-- A command in words, with its arguments in words; a command that takes none has a fixed
description. -/
def phrase (k : Kind) (arguments : List (Option Text)) : Text :=
  let first? : Option Text := arguments[0]?.join
  let second? : Option Text := arguments[1]?.join
  let first : Text := first?.getD []
  let second : Text := second?.getD []
  match k with
  | noOperation => "no operation"
  | up => "up"
  | down => "down"
  | pageUp => "page up"
  | pageDown => "page down"
  | toFirst => "to first"
  | toLast => "to last"
  | left => "left"
  | right => "right"
  | findPrompt => "open find prompt"
  | abortInput => "abort current input"
  | submitInput => "submit current input"
  | clearInput => "clear current input"
  | focusNext => "focus next"
  | focusPrevious => "focus previous"
  | cycleNext => "focus next (wrapping)"
  | cyclePrevious => "focus previous (wrapping)"
  | focus => "focus " ++ first
  | distractionFree => "distraction free mode"
  | sync => "sync all"
  | addCategory => "add category " ++ first
  | addFeed =>
    match second? with
    | some name => "add feed " ++ name ++ " with url " ++ first
    | none => "add feed with url " ++ first
  | changeTagColor => "change color of tag to " ++ first
  | rename => "rename selected to " ++ first
  | remove => "remove selected"
  | removeAll => "remove selected and its children"
  | changeFeedUrl => "change url of selected feed to " ++ first
  | yank => "yank selected feed or category"
  | paste => "paste yanked feed or category " ++ first ++ " selected element"
  | toggle => "toggle selected node"
  | expandCategories => "expand all " ++ first
  | expand => "expand the selected node"
  | collapse => "collapse the selected node"
  | collapseAll => "collapse all nodes"
  | setRead => "mark " ++ second ++ " as read in " ++ first
  | setUnread => "mark " ++ first ++ " as unread"
  | mark => "mark " ++ first
  | unmark => "unmark " ++ first
  | openInBrowser => "open " ++ first ++ " in browser"
  | tagArticles => "add #" ++ first ++ " to " ++ second
  | untagArticles => "remove #" ++ first ++ " from " ++ second
  | addTag => "add tag #" ++ first
  | nextUnread => "select next unread"
  | showArticles => "show " ++ second ++ " in " ++ first
  | scrape => "scrape content"
  | searchArticles => "search article by query: " ++ first
  | search =>
    match first? with
    | some term => "search for " ++ term
    | none => "clear search"
  | searchNext => "article search next"
  | searchPrevious => "article search previous"
  | setFilter => "filter article list by query: " ++ first
  | applyFilter => "apply current article filter"
  | clearFilter => "clear article filter"
  | sort => "sort article list by " ++ first
  | reverseSort => "reverse current sort order"
  | clearSort => "clear current sort order"
  | query => "query all articles by: " ++ first
  | share => "share article to " ++ first
  | importOpml => "import OPML file from " ++ first
  | exportOpml => "export OPML file to " ++ first
  | quit => "quit application"
  | commandLine => ":" ++ first
  | logout => "logout from provider, NOTE: this will remove ALL LOCAL DATA!"
  | helpInput => "show help on input mappings"
  | confirm => first ++ "?"
  | within => second ++ " in " ++ first
  | redraw => "redraw UI"
  | refresh => "refresh UI"

end Kind

end FeedReader.Command
