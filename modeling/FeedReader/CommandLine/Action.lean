import FeedReader.Command.Reader
import FeedReader.CommandLine.Arguments

/-!
# What the program is asked to do

* `Verb`: the first word that is no option;
* `Action`, `Action.read?`: what the arguments after it ask for;
* `Invocation`, `Invocation.read?`: the arguments before it, and what follows.
-/

namespace FeedReader.CommandLine

/-- The commands of the program. -/
inductive Verb
  | query
  | sort
  | command
  | hint
  | commands
  | articles
  | checkConfig
  deriving DecidableEq

namespace Verb

/-- The word for a command of the program. -/
def word : Verb → Text
  | query => "query"
  | sort => "sort"
  | command => "command"
  | hint => "hint"
  | commands => "commands"
  | articles => "articles"
  | checkConfig => "check-config"

/-- All commands of the program. -/
def list : List Verb := [query, sort, command, hint, commands, articles, checkConfig]

/-- The command that a word stands for. -/
def ofWord? (t : Text) : Option Verb := list.find? (·.word = t)

@[simp] theorem ofWord?_word (v : Verb) : ofWord? v.word = some v := by cases v <;> decide

/-- The option for help, which every command takes. -/
def help : Text := "--help"

/-- The options that a command takes. -/
def options : Verb → OptionNames
  | sort => { flags := [help, "--reverse"] }
  | command => { flags := [help, "--lenient"] }
  | articles => { valued := ["--db", "--scope", "--sort"], flags := [help, "--mark-read"] }
  | _ => { flags := [help] }

end Verb

/-- Which articles are listed, from which database and in which order. -/
structure Listing where
  query : Text := []
  database : Option Text := none
  scope : Option ArticleScope := none
  order : Option Text := none
  markRead : Bool := false
  deriving DecidableEq

/-- What the program does. -/
inductive Action
  | help
  | query (text : Text)
  | sort (text : Text) (reversed : Bool)
  | command (text : Text) (mode : Command.Mode)
  | hint (text : Text)
  | commands
  | articles (listing : Listing)
  | checkConfig
  deriving DecidableEq

namespace Action

/-- The only operand, or the default if there is none; nothing if there are several. -/
def operand? (default : Option Text) : List Text → Option Text
  | [] => default
  | [t] => some t
  | _ => none

/-- The listing that arguments ask for; nothing if its scope is none. -/
def listing? (a : Arguments) : Option Listing := do
  let query ← operand? (some []) a.operands
  let scope ← match a.value? "--scope" with
    | none => some none
    | some t => (ArticleScope.ofKeyword? t).map some
  some {
    query
    database := a.value? "--db"
    scope
    order := (a.value? "--sort").bind Text.nonempty?
    markRead := a.flags.contains "--mark-read" }

/-- What a command with arguments asks for. -/
def ofArguments? (v : Verb) (a : Arguments) : Option Action :=
  if a.flags.contains Verb.help then some .help
  else
    match v with
    | .query => (operand? none a.operands).map .query
    | .sort => (operand? none a.operands).map fun t => .sort t (a.flags.contains "--reverse")
    | .command => (operand? none a.operands).map fun t =>
        .command t (if a.flags.contains "--lenient" then .lenient else .eager)
    | .hint => (operand? (some []) a.operands).map .hint
    | .commands => if a.operands = [] then some .commands else none
    | .articles => (listing? a).map .articles
    | .checkConfig => if a.operands = [] then some .checkConfig else none

/-- Reads the arguments of a command. -/
def read? (v : Verb) (arguments : List Text) : Option Action :=
  (Arguments.read? v.options true arguments).bind (ofArguments? v)

end Action

/-- The options that stand before the command, the command, and its arguments. -/
structure Invocation where
  config : Option Text
  logLevel : Option Text
  verb : Option Verb
  arguments : List Text
  deriving DecidableEq

/-- Reads the arguments of the program; without a command it is asked for help. -/
def Invocation.read? (arguments : List Text) : Option Invocation := do
  let names : OptionNames := { valued := ["--config", "--log-level"], flags := [Verb.help] }
  let a ← Arguments.read? names false arguments
  let asked (verb : Option Verb) (rest : List Text) : Invocation :=
    ⟨a.value? "--config", a.value? "--log-level", verb, rest⟩
  if a.flags.contains Verb.help then some (asked none [])
  else
    match a.operands with
    | [] => none
    | t :: rest => (Verb.ofWord? t).map fun v => asked (some v) rest

end FeedReader.CommandLine
