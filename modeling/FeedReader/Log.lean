import FeedReader.Text.Case
import FeedReader.Text.Quoted

/-!
# Logging

Messages have a level, and a logger passes on those whose level reaches its own.

* `Log.Severity`: the five levels for everyday use;
* `Log.levelOfName?`, `Log.levelName`: the names of levels; those without one are named by their
  number;
* `Log.LevelSetting`, `Log.Error`, `Log.LevelSetting.read`;
* `Logger`, `Logger.takes`, `Logger.lines`, and `Logger.setUp`, which settles who may decide.
-/

namespace FeedReader

namespace Log

/-- How much a message matters. -/
inductive Severity
  | debug
  | info
  | warning
  | error
  | critical
  deriving DecidableEq

namespace Severity

/-- The level of a severity. -/
def level : Severity → Int
  | debug => 10
  | info => 20
  | warning => 30
  | error => 40
  | critical => 50

/-- The word for a severity. -/
def name : Severity → Text
  | debug => "DEBUG"
  | info => "INFO"
  | warning => "WARNING"
  | error => "ERROR"
  | critical => "CRITICAL"

/-- All severities. -/
def list : List Severity := [debug, info, warning, error, critical]

/-- The severity that a word stands for. -/
def ofName? (t : Text) : Option Severity := list.find? (·.name = t)

@[simp] theorem ofName?_name (s : Severity) : ofName? s.name = some s := by cases s <;> decide

end Severity

/-- The level of a logger that has none of its own. -/
def unset : Int := 0

/-- The level that a word stands for. Two severities have a second name, and there is one for no
level at all. -/
def levelOfName? (t : Text) : Option Int :=
  if t = "NOTSET".toList then some unset
  else if t = "WARN".toList then some Severity.warning.level
  else if t = "FATAL".toList then some Severity.critical.level
  else (Severity.ofName? t).map Severity.level

/-- The name of a level. -/
def levelName (n : Int) : Text :=
  if n = unset then "NOTSET"
  else ((Severity.list.find? (·.level = n)).map Severity.name).getD ("Level " ++ Text.decimalInt n)

/-- A level as it is asked for. -/
inductive LevelSetting
  | name (name : Text)
  | number (level : Int)
  deriving DecidableEq

/-- A level with a name that no level has. -/
structure Error where
  name : Text
  deriving DecidableEq

/-- The wording of an error. -/
def Error.message (e : Error) : Text := "Unknown level: " ++ Text.quoted e.name

/-- The level that is asked for; names are read in any case of letters. -/
def LevelSetting.read : LevelSetting → Except Error Int
  | number n => .ok n
  | name t =>
    match levelOfName? (Text.upper t) with
    | some n => .ok n
    | none => .error ⟨Text.upper t⟩

/-- What the environment asks of a logger. -/
structure Environment where
  level : Option Text := none
  file : Option Text := none

end Log

/-- The level of a logger and the file it writes to; without one it writes to the terminal. -/
structure Logger where
  level : Int
  file : Option Text
  deriving DecidableEq

namespace Logger

/-- The level that a message has to reach; where none is set, it is that of a warning. -/
def threshold (l : Logger) : Int :=
  if l.level = Log.unset then Log.Severity.warning.level else l.level

/-- Whether a message of a level is passed on. -/
def takes (l : Logger) (n : Int) : Bool := 0 < n && l.threshold ≤ n

/-- What is written for a message, after the time. -/
def line (n : Int) (message : Text) : Text := Log.levelName n ++ " | feedterm | " ++ message

/-- The message of a logger that has been set up. -/
def greeting (l : Logger) : Int × Text :=
  (Log.Severity.debug.level, "logging configured at level " ++ Log.levelName l.level)

/-- What a logger writes, from when it is set up, for messages with their levels. -/
def lines (l : Logger) (messages : List (Int × Text)) : List Text :=
  ((l.greeting :: messages).filter fun m => l.takes m.1).map fun m => line m.1 m.2

/-- The logger for an explicit level and file. What the environment asks for comes next, and then
the configuration; the level is that of a warning if none is given. Empty texts count as missing. -/
def setUp (level : Option Log.LevelSetting) (file : Option Text) (environment : Log.Environment)
    (configured : Option Log.Severity) (configuredFile : Option Text) :
    Except Log.Error Logger := do
  let named := (environment.level.bind Text.nonempty?).map Log.LevelSetting.name
  let n ← ((level.or named).getD (.number (configured.getD .warning).level)).read
  let written := file.or ((environment.file.bind Text.nonempty?).or configuredFile)
  return ⟨n, written.bind Text.nonempty?⟩

end Logger

end FeedReader
