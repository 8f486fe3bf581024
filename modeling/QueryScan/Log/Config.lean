import QueryScan.Text.Quoted

/-!
# Logging configurations

A configuration says what is logged, where it goes and how it looks. It starts from one of
the named configurations, which log to standard output in the pretty format, and each
setting replaces one part of it.

## Main results

* `Config.getLast?_history`: the last configuration of a history has all settings applied.
-/

namespace QueryScan

namespace Log

/-- Where log lines go. -/
inductive Output where
  /-- To standard output. -/
  | stdout
  /-- To a file. -/
  | file (path : String)
  /-- To standard output and to a file. -/
  | both (path : String)
  deriving DecidableEq, Repr

/-- How log lines look. -/
inductive Format where
  /-- Several lines for each event. -/
  | pretty
  /-- One line for each event. -/
  | compact
  deriving DecidableEq, Repr

/-- A logging configuration. -/
structure Config where
  /-- What is logged, as the text of a filter. -/
  level : String
  /-- Where it goes. -/
  output : Output
  /-- How it looks. -/
  format : Format
  deriving DecidableEq, Repr

/-- A change to a configuration. -/
inductive Setting where
  | file (path : String)
  | both (path : String)
  | level (level : String)
  | format (format : Format)
  deriving DecidableEq, Repr

/-- The path of the file, if lines go to one. -/
def Output.path? : Output → Option String
  | stdout => none
  | file path => some path
  | both path => some path

/-- The output for diagnostics. -/
def Output.inspect : Output → String
  | stdout => "Stdout"
  | file path => "File(" ++ quotedString path ++ ")"
  | both path => "Both(" ++ quotedString path ++ ")"

/-- The format for diagnostics. -/
def Format.inspect : Format → String
  | pretty => "Pretty"
  | compact => "Compact"

namespace Config

/-- The configuration that logs up to a level to standard output. -/
def ofLevel (level : String) : Config :=
  ⟨level, .stdout, .pretty⟩

/-- Logs informational events and more severe ones. -/
def info : Config := ofLevel "info"

/-- Logs a summary of each query as well. -/
def debug : Config := ofLevel "debug"

/-- Logs each token as well. -/
def trace : Config := ofLevel "trace"

/-- Logs warnings and errors only. -/
def warn : Config := ofLevel "warn"

/-- The configuration with one part replaced. -/
def set (c : Config) : Setting → Config
  | .file path => { c with output := .file path }
  | .both path => { c with output := .both path }
  | .level level => { c with level := level }
  | .format format => { c with format := format }

/-- The configuration with some settings applied in order. -/
def setAll (c : Config) (settings : List Setting) : Config :=
  settings.foldl set c

/-- The configuration at the start and after each setting. -/
def history (c : Config) : List Setting → List Config
  | [] => [c]
  | setting :: settings => c :: (c.set setting).history settings

/-- The configuration for diagnostics. -/
def inspect (c : Config) : String :=
  "LogConfig \x7b level: " ++ quotedString c.level ++ ", output: " ++ c.output.inspect ++
    ", format: " ++ c.format.inspect ++ " \x7d"

/-- The last configuration of a history has all settings applied. -/
theorem getLast?_history (c : Config) (settings : List Setting) :
    (c.history settings).getLast? = some (c.setAll settings) := by
  induction settings generalizing c with
  | nil => rfl
  | cons setting settings ih =>
    rw [history, List.getLast?_cons, ih]
    rfl

end Config

end Log

end QueryScan
