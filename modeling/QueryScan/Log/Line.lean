import QueryScan.Log.Config
import QueryScan.Log.Trace

/-!
# Log lines

Each event that is logged becomes one or more lines. Events that lie in a span show it, if
the span itself is logged. There are three layouts: the compact and the full one take a
line for each event, the pretty one a block of lines with an empty line after it.

Times and places in the code differ from run to run. Lines show a mark in their stead, so
that the lines of two runs can be compared.
-/

namespace QueryScan

namespace Log

/-- How an event is laid out. -/
inductive Layout where
  /-- One line; the fields of the span stand at the end. -/
  | compact
  /-- One line; the fields of the span stand beside its name. -/
  | full
  /-- A block of lines. -/
  | pretty
  deriving DecidableEq, Repr

/-- The layout that a format asks for. -/
def Format.layout : Format → Layout
  | .pretty => .pretty
  | .compact => .compact

namespace Layout

/-- What stands for the time of an event. -/
def timeMark : String := "<TIME>"

/-- What stands for the place in the code that an event comes from. -/
def placeMark : String := "<LOCATION>"

/-- The fields of an event, each written after a mark and with another mark inside. -/
def fieldText (before between : String) (e : Event) : String :=
  String.join (e.fields.map fun (name, value) => before ++ name ++ between ++ value.render)

/-- What the compact and the full layout have in common: the time, the level, what is shown
of the span, the target, the message and the fields. -/
def line (span : String) (e : Event) : String :=
  timeMark ++ " " ++ e.level.name ++ " " ++ span ++ e.target ++ ": " ++ e.message ++
    fieldText " " "=" e

/-- The lines of an event, in a span with the given number of bytes if there is one. -/
def lines (layout : Layout) (span : Option Nat) (e : Event) : List String :=
  match layout, span with
  | .compact, none => [line "" e]
  | .compact, some bytes => [line (Record.spanName ++ ": ") e ++ " len=" ++ toString bytes]
  | .full, none => [line "" e]
  | .full, some bytes => [line (Record.spanName ++ "\x7blen=" ++ toString bytes ++ "\x7d: ") e]
  | .pretty, _ =>
    ("  " ++ timeMark ++ " " ++ e.level.name ++ " " ++ e.target ++ ": " ++ e.message ++
        fieldText ", " ": " e) ::
      ("    at " ++ placeMark) ::
      (span.toList.map fun bytes =>
        "    in " ++ queryTarget ++ "::" ++ Record.spanName ++ " with len: " ++ toString bytes) ++
      [""]

/-- The lines of some records, when the given span is open before them. -/
def linesFrom (layout : Layout) (span : Option Nat) : List Record → List String
  | [] => []
  | .span bytes :: rest => layout.linesFrom (some bytes) rest
  | .enter :: rest => layout.linesFrom span rest
  | .exit :: rest => layout.linesFrom none rest
  | .event e :: rest => layout.lines span e ++ layout.linesFrom span rest

end Layout

end Log

end QueryScan
