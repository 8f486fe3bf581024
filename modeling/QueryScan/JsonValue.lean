import QueryScan.Number.Notation
import QueryScan.Text.Quoted

/-!
# Structured values

The textual interchange format is made of nested values: null, truth values, numbers,
strings, arrays and objects. Only the values matter here, not how they are written, so an
object is its members, no two under the same name, in no particular order.

A number is whole or in double precision, and the two are different values even where they
are equal as numbers. An error message describes a value that was found where another was
expected; only numbers, truth values and strings are described in full.
-/

namespace QueryScan

/-- A structured value. -/
inductive JsonValue where
  | null
  | bool (value : Bool)
  /-- A whole number. -/
  | integer (value : Int)
  /-- A number in double precision, with its sign. -/
  | float (negative : Bool) (magnitude : Double)
  | string (value : String)
  | array (items : List JsonValue)
  | object (members : List (String × JsonValue))

namespace JsonValue

/-- The value in the words of an error message. -/
def describe : JsonValue → String
  | null => "null"
  | bool value => "boolean `" ++ (if value then "true" else "false") ++ "`"
  | integer value => "integer `" ++ toString value ++ "`"
  | float negative magnitude => "floating point `" ++ magnitude.signedText negative ++ "`"
  | string value => "string " ++ quotedString value
  | array _ => "sequence"
  | object _ => "map"

/-- The member with a name, if there is one. -/
def member? (name : String) : JsonValue → Option JsonValue
  | object members => members.lookup name
  | _ => none

end JsonValue

end QueryScan
