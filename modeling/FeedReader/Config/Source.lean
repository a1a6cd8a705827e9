import FeedReader.Config.Reader
import FeedReader.Config.Value.Reader

/-!
# Where the configuration comes from

* `Config.Environment`: what is known of the user's files and wishes;
* `Config.Environment.file?`: the configuration file, and `Config.load`, which reads it;
* `Config.obtain`: a configuration that is kept once it has been read;
* `Config.databasePath`.
-/

namespace FeedReader.Config

/-- The user's home directory, the texts of files, and the paths that the user has set. -/
structure Environment where
  home : Path
  read : Path → Option Text
  configFile : Option Text := none
  database : Option Text := none

/-- A configuration or an error, and warnings. -/
abbrev Outcome (α : Type) := Result α × List KeyBindings.Warning

namespace Environment

/-- The configuration file: the given one, else the one that the user has set, else the standard
one. Nothing if it is in the home directory of somebody else. -/
def file? (env : Environment) (given : Option Text) : Option Path :=
  match given.or (env.configFile.bind Text.nonempty?) with
  | some t => (Path.ofText t).expand? env.home
  | none => some (standardFile env.home)

/-- The database that the user has set. -/
def database? (env : Environment) : Option Path :=
  (env.database.bind Text.nonempty?).map Path.ofText

end Environment

/-- The configuration in a file with the given text. -/
def ofText (now : Moment) (home file : Path) (t : Text) : Outcome Config :=
  match Value.ofText? t with
  | none => (fail (.unreadable file), [])
  | some (.map entries) => ofEntries now home entries
  | some v => if v.isNothing then ofEntries now home [] else (fail (.mapExpected file), [])

/-- The configuration of a file, or the standard one if there is no such file. The database that the
user has set counts before that of the file. -/
def load (env : Environment) (now : Moment) (given : Option Text) : Outcome Config :=
  match env.file? given with
  | none => (fail .homeUnknown, [])
  | some file =>
    let (result, warnings) : Outcome Config :=
      match env.read file with
      | none => (.ok (standard env.home), [])
      | some t => ofText now env.home file t
    (result.map fun c => { c with database := env.database?.getD c.database }, warnings)

/-- The configuration that is kept, or the one of the configuration file, which is then kept. -/
def obtain (env : Environment) (now : Moment) (kept : Option Config) :
    Outcome Config × Option Config :=
  match kept with
  | some c => ((.ok c, []), kept)
  | none => (load env now none, (load env now none).1.toOption)

/-- Reads the configuration again; the one that is kept remains if that fails. -/
def reload (env : Environment) (now : Moment) (kept : Option Config) :
    Outcome Config × Option Config :=
  (load env now none, (load env now none).1.toOption.or kept)

/-- The database: the one that the user has set, else that of the configuration. -/
def databasePath (env : Environment) (now : Moment) (kept : Option Config) :
    Outcome Path × Option Config :=
  match env.database? with
  | some p => ((.ok p, []), kept)
  | none =>
    let ((result, warnings), kept) := obtain env now kept
    ((result.map Config.database, warnings), kept)

end FeedReader.Config
