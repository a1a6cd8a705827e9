import FeedReader.CommandLine
import FeedReader.Store.Archive
import Std.Time.DateTime.Timestamp

/-!
# The program

Files, the clock and the terminal. Everything else is settled by `CommandLine.run`.
-/

namespace FeedReader.Program

/-- The time on the clock, if the calendar reaches that far. -/
def now : IO Moment := do
  let nanoseconds := (← Std.Time.Timestamp.now).toNanosecondsSinceUnixEpoch.val
  return (CommandLine.epoch.after? (nanoseconds / 1000)).getD CommandLine.epoch

/-- The text of a file, if there is one. -/
def readFile? (p : Path) : IO (Option Text) := do
  let name := String.ofList p.text
  try return some (← IO.FS.readFile name).toList
  catch _ => return none

/-- A variable of the environment. -/
def environmentText (name : String) : IO (Option Text) :=
  return (← IO.getEnv name).map (·.toList)

/-- What a run depends on: the clock, the variables of the environment, and the configuration file
that the arguments lead to. -/
def setting (arguments : List Text) : IO CommandLine.Setting := do
  let home := Path.ofText ((← environmentText "HOME").getD "/")
  let env : Config.Environment :=
    { home, read := fun _ => none, configFile := ← environmentText "FEEDTERM_CONFIG",
      database := ← environmentText "FEEDTERM_DB_PATH" }
  let file := env.file? ((CommandLine.Invocation.read? arguments).bind (·.config))
  let content ← (file.map readFile?).getD (return none)
  let log : Log.Environment :=
    { level := ← environmentText "FEEDTERM_LOG_LEVEL",
      file := ← environmentText "FEEDTERM_LOG_FILE" }
  return { now := ← now, environment := { env with read := fun _ => content }, log }

/-- The database that the arguments lead to, if they ask for one. -/
def database? (s : CommandLine.Setting) (arguments : List Text) : Option Path := do
  let i ← CommandLine.Invocation.read? arguments
  let verb ← i.verb
  let config ← (Config.load s.environment s.now i.config).1.toOption
  match ← CommandLine.Action.read? verb i.arguments with
  | .articles l => some (l.path config)
  | _ => none

/-- The file of a path, in a directory that is made if it is missing. -/
def fileName (p : Path) : IO String := do
  let directory : Path := { p with parts := p.parts.dropLast }
  IO.FS.createDirAll (String.ofList directory.text)
  return String.ofList p.text

/-- The store in a file, which is empty if there is no such file. -/
def readStore (p : Path) : IO Store := do
  match ← readFile? p with
  | none => return .empty
  | some t =>
    match Store.ofArchive? t with
    | some s => return s
    | none => throw (IO.userError ("not a database: " ++ String.ofList p.text))

/-- A line of text. -/
def line (t : Text) : String := String.ofList (t ++ ['\n'])

/-- Writes the messages of a run to the log. -/
def writeLog (s : CommandLine.Setting) (r : CommandLine.Report) : IO Unit := do
  for (level, message) in r.log do
    let written := line (s.now.iso ++ " | " ++ Logger.line level message)
    match r.logFile.bind fun t => (Path.ofText t).expand? s.environment.home with
    | none => (← IO.getStderr).putStr written
    | some p => IO.FS.withFile (← fileName p) .append (·.putStr written)

/-- Runs the program and gives its exit status. What a run that fails prints are its errors. -/
def run (arguments : List Text) : IO UInt32 := do
  let s ← setting arguments
  let databases ← (database? s arguments).toList.mapM fun p => return (p, ← readStore p)
  let (report, left) := CommandLine.run s databases arguments
  let stream ← if report.status = 0 then IO.getStdout else IO.getStderr
  for t in report.output do
    stream.putStr (line t)
  writeLog s report
  for (p, store) in left do
    IO.FS.writeFile (← fileName p) (String.ofList store.archive)
  return report.status.toUInt32

end FeedReader.Program

/-- Runs the program with the arguments it is called with. -/
def main (arguments : List String) : IO UInt32 :=
  FeedReader.Program.run (arguments.map (·.toList))
