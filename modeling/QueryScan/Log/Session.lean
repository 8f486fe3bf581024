import QueryScan.Log.FileName
import QueryScan.Log.Filter
import QueryScan.Log.Line
import QueryScan.Log.Path

/-!
# Logging sessions

A session starts logging with a configuration, runs some actions and stops logging. Its
report has the lines on standard output and the files in the working directory.

Standard output and a file show the same lines in the full layout when both are asked for;
a single sink shows them in the configured format. A file is made when logging starts, even
if nothing is ever logged. Starting fails if the file cannot be opened: because a name or the
path is not allowed, or because the way to the file's directory leads through something that
is a file already. It also fails if reading the filter breaks off. Starting a second time always
fails.

## Main results

* `Session.stdout_eq_fileLines`: standard output and the file show the same lines when both
  are asked for.
* `Session.runWith_eq_ok_of_stdout`: with a filter, logging to standard output alone always
  starts, and without a guard.
-/

namespace QueryScan

namespace Log

/-- Why logging cannot start. -/
inductive StartError where
  /-- The log file cannot be made. -/
  | noFile
  /-- Logging has been started already. -/
  | alreadyStarted
  /-- Reading the filter has broken off within a character, at this byte of a directive. -/
  | brokenFilter (index : Nat)
  deriving DecidableEq, Repr

/-- The error in words. Where reading breaks off, more is said than this. -/
def StartError.message : StartError → String
  | noFile => "initializing rolling file appender failed"
  | alreadyStarted => "failed to set global default subscriber"
  | brokenFilter index => "byte index " ++ toString index ++ " is not a char boundary"

/-- A session. -/
structure Session where
  /-- The configuration. -/
  config : Config
  /-- The filter from the environment, if there is one. -/
  environment : Option String
  /-- The files in the working directory before the start. -/
  existing : List Path
  /-- What is done while logging. -/
  actions : List Action

/-- What is seen of a session. -/
structure Report where
  /-- Whether there is a guard that keeps a file open. -/
  guarded : Bool
  /-- The lines on standard output. -/
  stdout : List String
  /-- The files in the working directory, by path, with their lines. -/
  files : List (String × List String)
  deriving DecidableEq, Repr

namespace Session

/-- The path of a place below the working directory. -/
def pathText (place : List String) : String :=
  String.intercalate "/" place

/-- The path under which a file is listed that is there before the start: a mark stands for
the first date in its name. -/
def listedText (place : List String) : String :=
  pathText (place.dropLast ++
    place.getLast?.toList.map fun name => String.ofList (maskDate name.toList))

/-- The records that are logged with a filter. -/
def logged (s : Session) (f : Filter) : List Record :=
  f.keep none (records s.actions)

/-- The lines that are logged, in a layout. -/
def lines (s : Session) (f : Filter) (layout : Layout) : List String :=
  layout.linesFrom none (s.logged f)

/-- The lines on standard output. -/
def stdout (s : Session) (f : Filter) : List String :=
  match s.config.output with
  | .stdout => s.lines f s.config.format.layout
  | .file _ => []
  | .both _ => s.lines f .full

/-- The lines in the log file. -/
def fileLines (s : Session) (f : Filter) : List String :=
  match s.config.output with
  | .stdout => []
  | .file _ => s.lines f s.config.format.layout
  | .both _ => s.lines f .full

/-- The path of the log file, if lines go to one. -/
def logPath? (s : Session) : Option Path :=
  s.config.output.path?.map Path.ofText

/-- The places of the files that are there before the start. -/
def existingPlaces (s : Session) : List (List String) :=
  s.existing.filterMap Path.place?

/-- The log file, if there is one, can be opened: its path is allowed, and the way to its
directory leads through no file. -/
def canStart (s : Session) : Bool :=
  match s.config.output.path? with
  | none => true
  | some text =>
    let path := Path.ofText text
    path.namesAllowed && Path.lengthAllowed text &&
      s.existingPlaces.all fun place => !path.logDirectory.passes place

/-- The log file with its lines, if it lies below the working directory. -/
def logFile? (s : Session) (f : Filter) : Option (String × List String) := do
  let path ← s.logPath?
  let place ← path.logDirectory.place?
  return (pathText (place ++ [path.logName ++ "." ++ dateMark]), s.fileLines f)

/-- All files in the working directory, sorted by the path under which they are listed; of
two under one path, the one that was there before the start comes first. -/
def files (s : Session) (f : Filter) : List (String × List String) :=
  let existing := s.existingPlaces.map fun place => (listedText place, [])
  (existing ++ (s.logFile? f).toList).mergeSort fun a b => !decide (b.1 < a.1)

/-- Runs the session with a filter. -/
def runWith (s : Session) (f : Filter) : Except StartError Report :=
  if s.canStart then .ok ⟨s.config.output.path?.isSome, s.stdout f, s.files f⟩
  else .error .noFile

/-- Runs the session. The filter is read before the file is opened. -/
def run (s : Session) (patterns : Patterns := .ofTexts) : Except StartError Report :=
  match Filter.effective patterns s.environment s.config.level with
  | .error index => .error (.brokenFilter index)
  | .ok f => s.runWith f

/-- Starts logging while it is running already. -/
def startAgain (_ : Session) : Except StartError Unit :=
  .error .alreadyStarted

/-- Standard output and the file show the same lines when both are asked for. -/
theorem stdout_eq_fileLines {s : Session} {path : String} (h : s.config.output = .both path)
    (f : Filter) : s.stdout f = s.fileLines f := by
  rw [stdout, fileLines, h]

/-- With a filter, logging to standard output alone always starts, and without a guard. -/
theorem runWith_eq_ok_of_stdout {s : Session} (h : s.config.output = .stdout) (f : Filter) :
    s.runWith f = .ok ⟨false, s.lines f s.config.format.layout, s.files f⟩ := by
  have hstart : s.canStart = true := by
    rw [canStart, h]
    rfl
  rw [runWith, if_pos hstart, stdout, h]
  rfl

end Session

end Log

end QueryScan
