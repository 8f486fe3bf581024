import QueryScan.Text.Quoted
import QueryScan.Token.Basic

/-!
# Tokens as text

A token is shown in three ways. Its display form `Token{type=KIND, value='text'}` gives the
text as it is and is meant for readers. Its two inspection forms quote the text, on one
line or as an indented block, and are meant for diagnostics.

The display form has a fixed shape, whatever column it is to be printed in.
-/

namespace QueryScan

namespace Token

/-- The token for readers, with its text as it is. -/
def display (t : Token) : String :=
  "Token\x7btype=" ++ t.kind.label ++ ", value='" ++ t.text ++ "'\x7d"

/-- The token for diagnostics, on one line. -/
def inspect (t : Token) : String :=
  "Token \x7b kind: " ++ t.kind.name ++ ", text: " ++ quotedString t.text ++ " \x7d"

/-- The token for diagnostics, as a block of lines. -/
def inspectBlock (t : Token) : String :=
  "Token \x7b\n    kind: " ++ t.kind.name ++ ",\n    text: " ++ quotedString t.text ++ ",\n\x7d"

end Token

end QueryScan
