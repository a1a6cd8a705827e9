import FeedReader.CommandLine.Articles
import FeedReader.Config.Source

/-!
# The command line

* `Setting`: what a run of the program depends on beside its arguments;
* `Databases`: the stores that runs of the program leave to later ones;
* `Action.perform`, `run`.
-/

namespace FeedReader.CommandLine

/-- What a run depends on beside its arguments. -/
structure Setting where
  now : Moment
  environment : Config.Environment
  log : Log.Environment := {}

/-- Stores by their paths. -/
abbrev Databases := List (Path × Store)

namespace Databases

/-- The store at a path, which is empty if there was none. -/
def get (d : Databases) (p : Path) : Store := ((d.find? (·.1 = p)).map (·.2)).getD Store.empty

/-- The stores with another one at a path. -/
def set (d : Databases) (p : Path) (s : Store) : Databases := (p, s) :: d.filter (·.1 ≠ p)

end Databases

/-- The database that a listing reads. -/
def Listing.path (l : Listing) (c : Config) : Path := (l.database.map Path.ofText).getD c.database

/-- What an action shows, and the stores it leaves. -/
def Action.perform (now : Moment) (c : Config) (d : Databases) : Action → Report × Databases
  | .help => (.help, d)
  | .query t => (explainQuery now t, d)
  | .sort t reversed => (explainSort t reversed, d)
  | .command t mode => (explainCommand now t mode, d)
  | .hint t => (explainHint now c.shareTargets t, d)
  | .commands => (listCommands, d)
  | .checkConfig => (summarize c, d)
  | .articles l =>
    match l.list c now with
    | .error r => (r, d)
    | .ok list =>
      let (report, store) := listArticles list l.markRead (d.get (l.path c))
      (report, d.set (l.path c) store)

/-- The report of an error in the configuration. -/
def configFailure : Failure Config.Error → Report
  | .mishap _ => .stopped []
  | .own .homeUnknown => .stopped []
  | .own e => .failure e.message

/-- Does what the arguments after a command ask for. What the logger passes on comes in place of the
messages for the log. -/
def runVerb (s : Setting) (d : Databases) (c : Config) (logger : Logger) (v : Verb)
    (arguments : List Text) : Report × Databases :=
  match Action.read? v arguments with
  | none => (.usage, d)
  | some action =>
    let (report, left) := action.perform s.now c d
    let messages := (logger.greeting :: report.log).filter fun m => logger.takes m.1
    ({ report with log := messages, logFile := logger.file }, left)

/-- Runs the program. The configuration comes first, then the log, then the command; warnings about
the configuration are printed before everything else. -/
def run (s : Setting) (d : Databases) (arguments : List Text) : Report × Databases :=
  match Invocation.read? arguments with
  | none => (.usage, d)
  | some ⟨_, _, none, _⟩ => (.help, d)
  | some ⟨file, level, some verb, rest⟩ =>
    let (config, warnings) := Config.load s.environment s.now file
    let printed := warnings.map KeyBindings.Warning.message
    match config with
    | .error e => ((configFailure e).after printed, d)
    | .ok c =>
      match Logger.setUp (level.map .name) none s.log (some c.logLevel) c.logFile with
      | .error _ => (.stopped printed, d)
      | .ok logger =>
        let (report, left) := runVerb s d c logger verb rest
        (report.after printed, left)

end FeedReader.CommandLine
