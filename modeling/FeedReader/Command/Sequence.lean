import FeedReader.Command.Nesting

/-!
# Command sequences

* `CommandSequence`: commands that are executed one after the other;
* `CommandSequence.read`, `CommandSequence.describe`.
-/

namespace FeedReader

/-- Commands that are executed one after the other. -/
structure CommandSequence where
  commands : List Command
  deriving DecidableEq

namespace CommandSequence

/-- Reads one command from each line; the first error counts. -/
def read (mode : Command.Mode) (now : Moment) (lines : List Text) :
    Command.Result CommandSequence :=
  (lines.mapM (Command.readBounded mode now)).map fun commands => ⟨commands⟩

/-- The commands in words. -/
def describe (s : CommandSequence) : Text := Text.joinWith "," (s.commands.map Command.describe)

end CommandSequence

end FeedReader
