import QueryScan.Log.Event
import QueryScan.Text.Alphanumeric
import QueryScan.Text.Blank
import QueryScan.Text.Split

/-!
# Directives

A filter is made of directives. A directive is written `target[span{field=value}]=level`, and
any part of it may be left out:

* the target stands for every target that it begins;
* the span, in brackets, is the name of a span;
* the field, in braces, is one that a span or an event has to have, and its value is one that a
  span has to have in that field;
* the level is the threshold for what the directive is about. Without it everything is let
  through.

A text without brackets and `=` is a level if it can be, and else a target.

A directive is read character by character, and its parts are cut out of the text by the bytes
at which they begin and end. Blanks at both ends are passed over in reading, but those bytes are
not counted anew, so behind blanks the parts are cut at the wrong places. Where such a place lies
within a character, reading breaks off.

A value that is neither a number nor a truth value is a pattern. What is a pattern, and which
numbers it holds of, is left to a library of patterns.
-/

namespace QueryScan

namespace Log

/-- A library of **patterns**. -/
structure Patterns where
  /-- The text is a pattern. -/
  reads : String → Bool
  /-- The pattern holds of the number. -/
  holds : String → Nat → Bool

/-- The library for which every text is a pattern, and no pattern holds of a number. -/
def Patterns.ofTexts : Patterns :=
  ⟨fun _ => true, fun _ _ => false⟩

/-- The value that a field has to have. -/
inductive ValueFilter where
  /-- This number. -/
  | number (n : Nat)
  /-- A truth value, or a number with a minus sign, a fraction or an exponent, or too large for
  64 bits. -/
  | literal (s : String)
  /-- A value that a pattern holds of. -/
  | pattern (s : String)
  deriving DecidableEq, Repr

/-- The field that a span or an event has to have. -/
structure FieldFilter where
  /-- The name of the field. -/
  name : String
  /-- The value that it has to have, if one is given. -/
  value : Option ValueFilter
  deriving DecidableEq, Repr

/-- How much is logged of what a directive is about. -/
structure Directive where
  /-- The beginning of the targets it is about; it is about all if there is none. -/
  target : Option String
  /-- The name of the span it is about, if it is about one. -/
  span : Option String
  /-- The field it asks for, if there is one. -/
  field : Option FieldFilter
  /-- How much is let through. -/
  threshold : Threshold
  deriving DecidableEq, Repr

/-- Why a text is not read as a filter. -/
inductive ReadError where
  /-- A part of it is no directive. -/
  | malformed
  /-- A part of a directive would begin or end within a character, at this byte. -/
  | split (index : Nat)
  deriving DecidableEq, Repr

/-! ### Values -/

namespace ValueFilter

/-- The text is one or more ASCII digits. -/
def isDigits (cs : List Char) : Bool :=
  !cs.isEmpty && cs.all Char.isDigit

/-- The text without a sign in front. -/
def unsigned : List Char → List Char
  | '+' :: cs => cs
  | '-' :: cs => cs
  | cs => cs

/-- The text is the digits of a decimal number, with or without a point. -/
def isMantissa (cs : List Char) : Bool :=
  match pieces '.' cs with
  | [whole] => isDigits whole
  | [whole, fraction] => whole.all Char.isDigit && fraction.all Char.isDigit &&
      !(whole.isEmpty && fraction.isEmpty)
  | _ => false

/-- The text is a number in decimal notation, or the name of one that has none. -/
def isDecimal (cs : List Char) : Bool :=
  let body := (unsigned cs).map Char.toLower
  body == "inf".toList || body == "infinity".toList || body == "nan".toList ||
    match pieces 'e' body with
    | [mantissa] => isMantissa mantissa
    | [mantissa, exponent] => isMantissa mantissa && isDigits (unsigned exponent)
    | _ => false

/-- The text is a truth value. -/
def isTruth (cs : List Char) : Bool :=
  cs == "true".toList || cs == "false".toList

/-- Reads a value. -/
def ofText? (patterns : Patterns) (cs : List Char) : Option ValueFilter :=
  match (Threshold.number? cs).filter fun n => n < UInt64.size with
  | some n => some (.number n)
  | none =>
    if isTruth cs || isDecimal cs then some (.literal (String.ofList cs))
    else if patterns.reads (String.ofList cs) then some (.pattern (String.ofList cs))
    else none

/-- The value is the number. -/
def holds (patterns : Patterns) : ValueFilter → Nat → Bool
  | number m, n => m == n
  | literal _, _ => false
  | pattern s, n => patterns.holds s n

end ValueFilter

/-- Reads a field with the value that it has to have. What stands behind a second `=` counts for
nothing. -/
def FieldFilter.ofText? (patterns : Patterns) (cs : List Char) : Option FieldFilter :=
  match pieces '=' cs with
  | name :: value :: _ =>
    (ValueFilter.ofText? patterns value).map fun v => ⟨String.ofList name, some v⟩
  | _ => some ⟨String.ofList cs, none⟩

/-! ### Cutting by bytes -/

/-- The characters of the first bytes and those after them, unless a character is split. -/
def splitBytes? : List Char → Nat → Option (List Char × List Char)
  | cs, 0 => some ([], cs)
  | [], _ + 1 => none
  | c :: cs, n + 1 =>
    if c.utf8Size ≤ n + 1 then
      (splitBytes? cs (n + 1 - c.utf8Size)).map fun (front, back) => (c :: front, back)
    else none

/-- What stands behind the first bytes of a text. -/
def sliceFrom (text : List Char) (first : Nat) : Except ReadError (List Char) :=
  match splitBytes? text first with
  | some (_, back) => .ok back
  | none => .error (.split first)

/-- What stands between two bytes of a text. -/
def slice (text : List Char) (first last : Nat) : Except ReadError (List Char) := do
  let back ← sliceFrom text first
  match splitBytes? back (last - first) with
  | some (front, _) => .ok front
  | none => .error (.split last)

/-! ### Reading a directive -/

namespace Directive

/-- How far a directive has been read. A part that has been begun is told by its first byte. -/
inductive Stage where
  /-- Nothing has been read. -/
  | start
  /-- A level or a target has been begun. -/
  | name
  /-- A span has been begun. -/
  | span (first : Nat)
  /-- A field has been begun. -/
  | field (first : Nat)
  /-- The braces have been closed. -/
  | closed
  /-- The brackets have been closed. -/
  | done
  /-- A level has been begun. -/
  | level (first : Nat)
  deriving DecidableEq, Repr

/-- A level or a target can start with the character. -/
def opens (c : Char) : Bool :=
  isAlphanumeric c || c == '-' || c == ':' || c == '_'

/-- The text without the blanks at both ends. -/
def trim (cs : List Char) : List Char :=
  ((cs.dropWhile isBlank).reverse.dropWhile isBlank).reverse

/-- Reads a text that has neither brackets nor `=`: a level, or else a target. -/
def ofPlain (text : List Char) : Directive :=
  match Threshold.ofText? text with
  | some threshold => ⟨none, none, none, threshold⟩
  | none => ⟨some (String.ofList text), none, none, .upTo .trace⟩

/-- The name that a text is, unless it is empty. -/
def nameOf? (cs : List Char) : Option String :=
  if cs.isEmpty then none else some (String.ofList cs)

/-- Reads one more character, at the given byte. -/
def step (patterns : Patterns) (text : List Char) (d : Directive) (stage : Stage) (i : Nat)
    (c : Char) : Except ReadError (Directive × Stage) :=
  match stage with
  | .start =>
    if c = '[' then .ok (d, .span (i + 1))
    else if opens c then .ok (d, .name)
    else .error .malformed
  | .name =>
    if c = '=' then do
      let target ← slice text 0 i
      return ({ d with target := some (String.ofList target) }, .level (i + 1))
    else if c = '[' then do
      let target ← slice text 0 i
      return ({ d with target := some (String.ofList target) }, .span (i + 1))
    else .ok (d, .name)
  | .span first =>
    if c = ']' then do
      let name ← slice text first i
      return ({ d with span := some (String.ofList name) }, .done)
    else if c = '\x7b' then do
      let name ← slice text first i
      return ({ d with span := nameOf? name }, .field (i + 1))
    else .ok (d, .span first)
  | .field first =>
    if c = '\x7d' then do
      let field ← slice text first i
      if field.isEmpty then .error .malformed
      else
        match FieldFilter.ofText? patterns field with
        | some f => .ok ({ d with field := some f }, .closed)
        | none => .error .malformed
    else .ok (d, .field first)
  | .closed => if c = ']' then .ok (d, .done) else .error .malformed
  | .done => if c = '=' then .ok (d, .level (i + 1)) else .error .malformed
  | .level first => .ok (d, .level first)

/-- Reads a level, which may be empty. -/
def ofLevel (d : Directive) (level : List Char) : Except ReadError Directive :=
  if level.isEmpty then .ok { d with threshold := .upTo .trace }
  else
    match Threshold.ofText? level with
    | some threshold => .ok { d with threshold := threshold }
    | none => .error .malformed

/-- Reads the end of a text. -/
def finish (text : List Char) (d : Directive) : Stage → Except ReadError Directive
  | .name => .ok (ofPlain text)
  | .done => .ok d
  | .level first => do d.ofLevel (← sliceFrom text first)
  | _ => .error .malformed

/-- Reads some more characters, the first of them at the given byte, and the end. -/
def readFrom (patterns : Patterns) (text : List Char) (d : Directive) (stage : Stage) (i : Nat) :
    List Char → Except ReadError Directive
  | [] => finish text d stage
  | c :: cs => do
    let (d', stage') ← step patterns text d stage i c
    readFrom patterns text d' stage' (i + c.utf8Size) cs

/-- Reads a directive. -/
def ofText (patterns : Patterns) (text : List Char) : Except ReadError Directive :=
  readFrom patterns text ⟨none, none, none, .upTo .trace⟩ .start 0 (trim text)

end Directive

end Log

end QueryScan
