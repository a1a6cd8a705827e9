import FeedReader.Command.Sequence
import FeedReader.Config.Value

/-!
# Key bindings

A key or a sequence of keys executes commands. The user's bindings are laid over the built-in ones,
and a binding without commands takes its key out of use.

* `KeyBindings`, `KeyBindings.find?`;
* `KeyBindings.builtin`;
* `KeyBindings.overlay`, `KeyBindings.merge`;
* `KeyBindings.Warning`, `KeyBindings.read`: bindings that cannot be read are dropped with a
  warning.
-/

namespace FeedReader

/-- Keys and what they execute, each key once. -/
abbrev KeyBindings := List (Text × CommandSequence)

namespace KeyBindings

/-- What a key executes. -/
def find? (b : KeyBindings) (key : Text) : Option CommandSequence :=
  (List.find? (·.1 = key) b).map (·.2)

/-! ### Built-in bindings -/

/-- A key with the commands that it executes. -/
def binding (key : Text) (commands : List Command) : Text × CommandSequence := (key, ⟨commands⟩)

/-- The bindings that hold if the user has none. -/
def builtin : KeyBindings :=
  [binding "j" [.plain .down rfl],
   binding "k" [.plain .up rfl],
   binding "h" [.plain .left rfl],
   binding "l" [.plain .right rfl],
   binding "C-f" [.plain .pageDown rfl],
   binding "C-b" [.plain .pageUp rfl],
   binding "g g" [.plain .toFirst rfl],
   binding "G" [.plain .toLast rfl],
   binding "q" [.confirm (.plain .quit rfl)],
   binding "r" [.plain .sync rfl],
   binding "s" [.plain .scrape rfl],
   binding "g f" [.focus .feeds],
   binding "g a" [.focus .articles],
   binding "g c" [.focus .content],
   binding ":" [.commandLine none],
   binding "/" [.plain .findPrompt rfl],
   binding "esc" [.plain .abortInput rfl],
   binding "enter" [.plain .submitInput rfl],
   binding "space" [.plain .focusNext rfl],
   binding "backspace" [.plain .focusPrevious rfl],
   binding "tab" [.plain .cycleNext rfl],
   binding "backtab" [.plain .cyclePrevious rfl],
   binding "o"
     [.onScope .openInBrowser rfl .current, .setRead .current .current, .plain .nextUnread rfl],
   binding "n" [.setRead .current .current, .plain .nextUnread rfl],
   binding "u" [.onScope .setUnread rfl .current],
   binding "m" [.onScope .mark rfl .current],
   binding "M" [.onScope .unmark rfl .current],
   binding "a" [.confirm (.within .articles (.setRead .current .all))],
   binding "1" [.showArticles .articles .all],
   binding "2" [.showArticles .articles .unread],
   binding "3" [.showArticles .articles .marked],
   binding "z" [.plain .distractionFree rfl],
   binding "?" [.plain .helpInput rfl],
   binding "C-l" [.plain .redraw rfl]]

/-! ### Merging -/

/-- The bindings with another one, in the place of the one for its key if there is one. -/
def put (b : KeyBindings) (entry : Text × CommandSequence) : KeyBindings :=
  if b.any (·.1 = entry.1) then b.map fun e => if e.1 = entry.1 then entry else e
  else b ++ [entry]

/-- The bindings with others laid over them. -/
def overlay (b others : KeyBindings) : KeyBindings := others.foldl put b

/-- The bindings that execute something. -/
def inUse (b : KeyBindings) : KeyBindings := b.filter fun e => !e.2.commands.isEmpty

/-- No binding in use is empty. -/
theorem commands_ne_nil_of_mem_inUse {b : KeyBindings} {e : Text × CommandSequence}
    (h : e ∈ b.inUse) : e.2.commands ≠ [] := by
  have := (List.mem_filter.1 h).2
  simpa using this

/-- The user's bindings over the built-in ones. -/
def merge (own : KeyBindings) : KeyBindings := (overlay builtin own).inUse

/-! ### Reading -/

/-- Why a binding is dropped. -/
inductive Warning
  | notCommands (key : Text)
  | refused (key : Text) (error : Command.Error)
  deriving DecidableEq

/-- The wording of a warning. -/
def Warning.message : Warning → Text
  | notCommands key =>
    "dropping key binding " ++ Text.quoted key ++ ": expected a command or a list of commands"
  | refused key e => "dropping key binding " ++ Text.quoted key ++ ": " ++ e.message

/-- The command lines of a binding: a text is one, and a list of texts is several. -/
def commandLines? : Config.Value → Option (List Text)
  | .text t => some [t]
  | v => v.texts?

/-- What the value of a key comes to: commands or a warning, unless reading a command ends in a
mishap. -/
def readEntry (now : Moment) (key : Text) (v : Config.Value) :
    Except (Failure Warning) CommandSequence :=
  match commandLines? v with
  | none => .error (.own (.notCommands key))
  | some lines => (CommandSequence.read .eager now lines).mapError (·.map (.refused key))

/-- Reads bindings, with the warnings up to where a mishap ends that. -/
def read (now : Moment) :
    List (Text × Config.Value) → Except Mishap KeyBindings × List Warning
  | [] => (.ok [], [])
  | (key, v) :: rest =>
    match readEntry now key v with
    | .error (.mishap m) => (.error m, [])
    | .error (.own w) => ((read now rest).1, w :: (read now rest).2)
    | .ok s => ((read now rest).1.map ((key, s) :: ·), (read now rest).2)

end KeyBindings

end FeedReader
