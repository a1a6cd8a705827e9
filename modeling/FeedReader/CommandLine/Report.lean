import FeedReader.Terminal.Table

/-!
# What a run of the program shows

* `Report`: an exit status, what is printed, and what is logged;
* `Report.done`, `failure`, `stopped`, `usage`: the ways in which a run ends;
* `Report.ofSections`: printing one thing after another;
* `pointer`: the place of an error under the text that it was found in.
-/

namespace FeedReader.CommandLine

/-- An exit status, printed texts, each of which begins a new line, messages for the log with their
levels, and the file of the log if it has one. -/
structure Report where
  status : Nat
  output : List Text
  log : List (Int × Text) := []
  logFile : Option Text := none
  deriving DecidableEq

namespace Report

/-- A run that does what it was asked for. -/
def done (output : List Text) : Report := { status := 0, output }

/-- A run that ends with a message about what is wrong. -/
def failure (message : Text) : Report := { status := 1, output := ["Error: " ++ message] }

/-- A run that breaks off. -/
def stopped (output : List Text) : Report := { status := 1, output }

/-- How the program is called. -/
def usageText : Text := "Usage: feedterm [OPTIONS] COMMAND [ARGS]..."

/-- A run that is asked how the program is called. -/
def help : Report := done [usageText]

/-- A run with arguments that mean nothing. -/
def usage : Report := { status := 2, output := [usageText] }

/-- Prints texts before all others. -/
def after (r : Report) (output : List Text) : Report := { r with output := output ++ r.output }

/-- Prints sections one after the other, and breaks off at the first one that cannot be shown. -/
def ofSections : List (Option (List Text)) → Report
  | [] => done []
  | none :: _ => stopped []
  | some section_ :: rest => (ofSections rest).after section_

end Report

/-- A text with a sign under the place of an error. -/
def pointer (t : Text) (offset : Nat) : Text :=
  "  " ++ t ++ "\n  " ++ List.replicate offset ' ' ++ "^"

/-- A message as a section. -/
def messageSection (t : Text) : Option (List Text) := (Terminal.plain? t).map Terminal.printedLines

end FeedReader.CommandLine
