import QueryScan.Scanner
import QueryScan.Text.Quoted

/-!
# Why a query is refused

A query can be refused before it is scanned, because of its length, or by the scanner,
because of a character. The second has a cause of its own, the rejection; the first has
only its explanation.
-/

namespace QueryScan

namespace Rejection

/-- The rejection for readers, with the character as it is. -/
def message (r : Rejection) : String :=
  "Unexpected character: '" ++ r.character.toString ++ "' at position " ++ toString r.position

end Rejection

/-- Why a query is refused. -/
inductive QueryError where
  /-- The scanner rejected a character. -/
  | rejected (cause : Rejection)
  /-- The text was not scanned at all, for the reason given. -/
  | invalidInput (reason : String)
  deriving DecidableEq, Repr

namespace QueryError

/-- The error for readers. -/
def message : QueryError → String
  | rejected cause => "Lexer error: " ++ cause.message
  | invalidInput reason => "Invalid input: " ++ reason

/-- The rejection behind the error, if there is one. -/
def cause? : QueryError → Option Rejection
  | rejected cause => some cause
  | invalidInput _ => none

/-- The error for diagnostics, on one line. -/
def inspect : QueryError → String
  | rejected cause =>
    "Lexer(UnexpectedCharacter \x7b character: " ++ quotedChar cause.character ++
      ", position: " ++ toString cause.position ++ " \x7d)"
  | invalidInput reason => "InvalidInput(" ++ quotedString reason ++ ")"

/-- The error for diagnostics, as a block of lines. -/
def inspectBlock : QueryError → String
  | rejected cause =>
    "Lexer(\n    UnexpectedCharacter \x7b\n        character: " ++ quotedChar cause.character ++
      ",\n        position: " ++ toString cause.position ++ ",\n    \x7d,\n)"
  | invalidInput reason => "InvalidInput(\n    " ++ quotedString reason ++ ",\n)"

end QueryError

end QueryScan
