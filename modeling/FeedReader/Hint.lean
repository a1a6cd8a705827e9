import FeedReader.Command.Nesting
import FeedReader.Hint.Entry

/-!
# Hints for the command line

While a line is typed, what stands before its last word is read leniently. What the reader then
expects, or what may still follow a complete command, is offered for the last word.

* `Hint`: a title, help entries and the completions among them;
* `Hint.expecting`: what is offered where the reader expects something;
* `Hint.continuing?`: what is offered after a complete command;
* `Hint.ofLine`, `Hint.summary`: what is shown for a line, unless reading it ends in a mishap;
* `Hint.ofLineBounded`, `Hint.summaryBounded`: the same within the limit for commands within
  commands.
-/

namespace FeedReader

/-- What may stand at the end of a line. -/
structure Hint where
  title : Text
  entries : List Hint.Entry
  completions : List Text
  deriving DecidableEq

namespace Hint

/-- Nothing to offer. -/
def empty : Hint := ⟨[], [], []⟩

/-- The words that can be typed as they are, which those in angle brackets cannot. -/
def completable (entries : List Entry) : List Text :=
  (entries.map (·.keyword)).filter fun k => k.head? ≠ some '<'

/-- Entries under a title, with their completions. -/
def offering (title : Text) (entries : List Entry) : Hint := ⟨title, entries, completable entries⟩

/-- What is offered where the reader expects something; `typed` is the word being typed. -/
def expecting (typed : Text) (tags : List Tag) (shareTargets : List Text) : Command.Error → Hint
  | .commandNameExpected _ =>
    ⟨"Command", Entry.ofCommands.filter fun e => typed.isPrefixOf e.keyword,
      completable Entry.ofCommands⟩
  | .commandExpected => offering "Command" Entry.ofCommands
  | .panelExpected _ => offering "Panel" Entry.ofPanels
  | .tagExpected => offering "Tag" (Entry.ofTags tags)
  | .targetOrArticleScopeExpected =>
    offering "Target or Article Scope" (Entry.ofTargets ++ Entry.ofArticleScopes)
  | .articleScopeExpected _ => offering "Article Scope" Entry.ofArticleScopes
  | .queryExpected _ => offering "Query" Entry.ofQuery
  | .urlExpected _ =>
    ⟨"URL", [⟨[], "URL expected", "e.g., https://www.feedprovider.com/rss"⟩], []⟩
  | .colorExpected _ => offering "Color" Entry.ofColors
  | .shareTargetExpected => offering "Share Targets" (Entry.ofShareTargets shareTargets)
  | .positionExpected _ => offering "Paste Position" Entry.ofPositions
  | .sortOrderExpected _ => offering "Sort Order" Entry.ofSortOrder
  | .searchTermExpected _ => offering "Search Term" Entry.ofSearchTerm
  | .confirmationExpected => offering "Confirmation" [.plain "NOW" "confirm logout"]
  | .pathExpected => empty
  | .somethingExpected _ => empty
  | .nothingExpected _ => empty

/-- The kind of the command that the `confirm` and `in` of a line lead to, and its arguments. -/
def innermostLine (t : Text) : Option (Command.Kind × Text) :=
  match _h : Text.splitWord t with
  | none => none
  | some (word, rest) =>
    match Command.Kind.ofKeyword? word with
    | none => none
    | some .confirm => innermostLine rest
    | some .within =>
      match _hp : Text.splitWord rest with
      | none => none
      | some (_, tail) => innermostLine tail
    | some kind => some (kind, rest)
termination_by t.length
decreasing_by
  · exact Text.length_of_splitWord _h
  · exact Nat.lt_trans (Text.length_of_splitWord _hp) (Text.length_of_splitWord _h)

/-- What is offered after a complete command with the given words as arguments, where another
argument may follow. -/
def continuing? (shape : Command.Shape) (arguments : List Text) : Option Hint :=
  match shape, arguments with
  | .targetScope, [] => some (offering "Target or Scope" (Entry.ofTargets ++ Entry.ofScopes))
  | .targetScope, [word] =>
    if (ActionTarget.ofKeyword? word).isSome then some (offering "Scope" Entry.ofScopes) else none
  | .scope, [] => some (offering "Scope" Entry.ofScopes)
  | .tagScope, [_] => some (offering "Scope" Entry.ofScopes)
  | .tagColor, [_] => some (offering "Color" Entry.ofColors)
  | .searchTerm, [] => some (offering "Search Term" Entry.ofSearchTerm)
  | _, _ => none

/-- What is offered after a line that is a complete command. -/
def afterCommand (line : Text) : Hint :=
  match innermostLine line with
  | some (kind, rest) => (continuing? kind.shape (Text.words rest)).getD empty
  | none => empty

/-- What is offered for the last word of a line. -/
def ofLine (now : Moment) (tags : List Tag) (shareTargets : List Text) (line : Text) :
    Except Mishap Hint :=
  let (finished, typed) := Text.splitLast line
  match Command.read .lenient now finished with
  | .ok _ => .ok (afterCommand finished)
  | .error (.own e) => .ok (expecting typed tags shareTargets e)
  | .error (.mishap m) => .error m

/-- A line about the command being typed. -/
def summary (now : Moment) (line : Text) : Except Mishap Text :=
  match Command.read .lenient now line with
  | .ok c => .ok (c.describe ++ " (" ++ c.kind.usage ++ ")")
  | .error (.mishap m) => .error m
  | .error (.own _) =>
    match (Text.splitWord line).bind fun (word, _) => Command.Kind.ofKeyword? word with
    | some kind => .ok (kind.usage ++ "  " ++ kind.detail)
    | none => .ok "Press <TAB> for help."

/-- What is offered for the last word of a line, if there is room for the commands before it. -/
def ofLineBounded (now : Moment) (tags : List Tag) (shareTargets : List Text) (line : Text) :
    Except Mishap Hint :=
  Command.bounded .tooDeep (Text.splitLast line).1 (ofLine now tags shareTargets line)

/-- A line about the command being typed, if there is room for it. -/
def summaryBounded (now : Moment) (line : Text) : Except Mishap Text :=
  Command.bounded .tooDeep line (summary now line)

end Hint

end FeedReader
