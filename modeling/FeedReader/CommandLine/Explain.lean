import FeedReader.CommandLine.Report
import FeedReader.Config
import FeedReader.Hint

/-!
# Explaining queries, sort orders and commands

* `explainQuery`: how a query is evaluated;
* `explainSort`, `explainCommand`: the canonical form of an order and of a command;
* `explainHint`: the help for a line that is being typed;
* `listCommands`, `summarize`: all commands, and the settings.
-/

namespace FeedReader.CommandLine

/-- The report of an error in a query, with the place of the error. -/
def queryFailure (t : Text) : Failure Query.Error → Report
  | .own e => .failure (e.message ++ "\n" ++ pointer t e.offset)
  | .mishap _ => .stopped []

/-- A row for a condition of a filter that is set. -/
def filterRow (name : Text) (value : Option Text) : List (List Text) :=
  (value.map fun v => [name, v]).toList

/-- The table of a filter's conditions. -/
def filterTable (f : ArticleFilter) : Terminal.Table where
  title := "Service filter"
  header := ["Field", "Value"]
  rows := filterRow "unread" (f.read.map (·.name)) ++ filterRow "marked" (f.mark.map (·.name)) ++
    filterRow "newer_than" (f.newerThan.map (·.iso)) ++
    filterRow "older_than" (f.olderThan.map (·.iso)) ++
    filterRow "synced_before" (f.syncedBefore.map (·.iso)) ++
    filterRow "synced_after" (f.syncedAfter.map (·.iso))

/-- The table of a query's clauses. -/
def clauseTable (q : Query) : Terminal.Table where
  title := "Residual clauses"
  header := ["Clause"]
  rows := q.clauses.map fun c => [c.text]

/-- A truth value in a message. -/
def truthText (b : Bool) : Text := if b then "True" else "False"

/-- Shows how a query is evaluated. -/
def explainQuery (now : Moment) (t : Text) : Report :=
  match SplitQuery.read t now with
  | .error e => queryFailure t e
  | .ok q =>
    .ofSections ([(filterTable q.filter).lines?, (clauseTable q.residual).lines?] ++
      (q.residual.sort.map fun o => messageSection ("sort order: " ++ o.text)).toList ++
      [messageSection ("defines scope: " ++ truthText q.definesScope)])

/-- Shows the canonical form of a sort order. -/
def explainSort (t : Text) (reversed : Bool) : Report :=
  match SortOrder.read t with
  | .error e => .failure (e.message ++ "\n" ++ pointer t e.offset)
  | .ok o => .done [(o.reverseIf reversed).text]

/-- Shows the canonical form of a command, and the command in words. -/
def explainCommand (now : Moment) (t : Text) (mode : Command.Mode) : Report :=
  match Command.readBounded mode now t with
  | .error (.own e) => .failure e.message
  | .error (.mishap _) => .stopped []
  | .ok c => .done [c.text, c.describe]

/-- The table of a hint's entries, if it has any. -/
def hintSection (h : Hint) : Option (List Text) :=
  if h.entries = [] then some []
  else
    (Terminal.Table.mk h.title ["Usage", "Description"]
      (h.entries.map fun e => [e.usage, e.detail])).lines?

/-- Shows the help that is offered while a line is typed. -/
def explainHint (now : Moment) (shareTargets : List Text) (t : Text) : Report :=
  .ofSections [(Hint.summaryBounded now t).toOption.bind messageSection,
    (Hint.ofLineBounded now [] shareTargets t).toOption.bind hintSection]

/-- The table of all commands. -/
def commandTable : Terminal.Table where
  title := "Commands"
  header := ["Command", "Usage", "Description"]
  rows := Hint.Entry.ofCommands.map fun e => [e.keyword, e.usage, e.detail]

/-- Shows all commands. -/
def listCommands : Report := .ofSections [commandTable.lines?]

/-- A line about a query of the feed list. -/
def feedListLine (q : LabeledQuery) : Text := "feed list: " ++ q.label ++ " = " ++ q.query

/-- The lines about the settings that have one value. -/
def settingLines (c : Config) : List Text :=
  ["database: " ++ c.database.text,
   "default sort order: " ++ c.defaultOrder.text,
   "article scope: " ++ c.articleScope.keyword,
   "feed list scope: " ++ c.feedListScope.keyword,
   "key bindings: " ++ Text.decimal c.keyBindings.length]

/-- Shows the settings. -/
def summarize (c : Config) : Report :=
  .done (settingLines c ++ (c.feedList.map feedListLine).concat "configuration OK")

end FeedReader.CommandLine
