import FeedReader.Query.Error
import FeedReader.Text.Quoted

/-!
# Errors of command lines

* `Command.Error`: what was expected in a command line, with the word found in its place if there
  is one;
* `Command.Error.detail?`, `Command.Error.message`.
-/

namespace FeedReader.Command

/-- What was expected in a command line. A word that stands where something else was expected is
kept; an empty `word` means that there is none. -/
inductive Error
  | commandExpected
  | commandNameExpected (word : Text)
  | tagExpected
  | articleScopeExpected (word : Option Text)
  | targetOrArticleScopeExpected
  | colorExpected (word : Option Text)
  | urlExpected (word : Option Text)
  | panelExpected (word : Option Text)
  | positionExpected (word : Option Text)
  | queryExpected (cause : Query.Error)
  | shareTargetExpected
  | pathExpected
  | sortOrderExpected (cause : SortOrder.Error)
  | confirmationExpected
  | searchTermExpected (cause : Option Query.Error)
  | somethingExpected (usage : Text)
  | nothingExpected (rest : Text)
  deriving DecidableEq

namespace Error

/-- What was expected, in words. -/
def label : Error → Text
  | commandExpected => "expecting command"
  | commandNameExpected _ => "expecting command name"
  | tagExpected => "expecting tag"
  | articleScopeExpected _ => "expecting article scope"
  | targetOrArticleScopeExpected => "expecting target or article scope"
  | colorExpected _ => "expecting color"
  | urlExpected _ => "expecting URL"
  | panelExpected _ => "expecting panel"
  | positionExpected _ => "expecting position"
  | queryExpected _ => "expecting article search query"
  | shareTargetExpected => "expecting share target"
  | pathExpected => "expecting file path"
  | sortOrderExpected _ => "sort order expected"
  | confirmationExpected => "expecting `NOW` as parameter for confirmation"
  | searchTermExpected _ => "search term expected (quoted string, regex or single word)"
  | somethingExpected _ => "expecting something"
  | nothingExpected _ => "unexpected"

/-- What was found in its place, or why it was not what was expected. -/
def detail? : Error → Option Text
  | commandNameExpected [] => none
  | commandNameExpected word => some (Text.quoted word)
  | articleScopeExpected word => word
  | colorExpected word => word
  | urlExpected word => word
  | panelExpected word => word
  | positionExpected word => word
  | queryExpected cause => some cause.message
  | sortOrderExpected cause => some cause.message
  | searchTermExpected cause => cause.map (·.message)
  | somethingExpected usage => some usage
  | nothingExpected rest => some rest
  | _ => none

/-- The wording of an error. -/
def message (e : Error) : Text :=
  match e.detail? with
  | some d => e.label ++ ": " ++ d
  | none => e.label

end Error

end FeedReader.Command
