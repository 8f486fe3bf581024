import QueryScan.Log.Level
import QueryScan.Query.Basic

/-!
# Events and spans

While it works, the library reports what it does. A scanner reports every token it makes,
except the end mark, and every character it rejects. Tokenizing a query reports the number
of tokens, and all that it does lies within a span that carries the length of the query.

An event has a level, a target that says which part of the library it comes from, a message
and named fields.
-/

namespace QueryScan

namespace Log

/-- The value of a field. -/
inductive FieldValue where
  /-- A number. -/
  | number (n : Nat)
  /-- A word that is shown as it is. -/
  | word (s : String)
  /-- A text that is quoted in log lines. -/
  | text (s : String)
  deriving DecidableEq, Repr

/-- The value in a log line. -/
def FieldValue.render : FieldValue → String
  | number n => toString n
  | word s => s
  | text s => quotedString s

/-- The part of the library that tokenizes queries. -/
def queryTarget : String := "customdb"

/-- The part of the library that scans texts. -/
def scannerTarget : String := "customdb_core::query::lexer"

/-- What is reported. -/
inductive Event where
  /-- A scanner made a token. -/
  | token (t : Token)
  /-- A scanner rejected a character. -/
  | rejected (r : Rejection)
  /-- A query was tokenized. -/
  | tokenized (count : Nat)
  deriving DecidableEq, Repr

namespace Event

/-- How severe the event is. -/
def level : Event → Level
  | token _ => .trace
  | rejected _ => .trace
  | tokenized _ => .debug

/-- Which part of the library the event comes from. -/
def target : Event → String
  | token _ => scannerTarget
  | rejected _ => scannerTarget
  | tokenized _ => queryTarget

/-- What happened, in words. -/
def message : Event → String
  | token _ => "token"
  | rejected _ => "unexpected character"
  | tokenized _ => "tokenized query"

/-- The particulars, in order. -/
def fields : Event → List (String × FieldValue)
  | token t => [("kind", .word t.kind.label), ("text", .text t.text)]
  | rejected r => [("character", .word (quotedChar r.character)), ("position", .number r.position)]
  | tokenized count => [("count", .number count)]

/-- The names of all that is told of the event. -/
def fieldNames (e : Event) : List String :=
  "message" :: e.fields.map Prod.fst

end Event

/-- An entry of a trace. -/
inductive Record where
  /-- A span for a query of so many bytes is made. -/
  | span (bytes : Nat)
  /-- The span is entered. -/
  | enter
  /-- The span is left. -/
  | exit
  /-- Something is reported. -/
  | event (e : Event)
  deriving DecidableEq, Repr

namespace Record

/-- The name of the span around the tokenization of a query. -/
def spanName : String := "tokenize"

/-- The name of the field in which that span carries the length of the query. -/
def spanField : String := "len"

/-- The level of the span around the tokenization of a query. -/
def spanLevel : Level := .debug

/-- How severe the record is; entering and leaving a span go with the span. -/
def level : Record → Level
  | event e => e.level
  | _ => spanLevel

/-- Which part of the library the record comes from. -/
def target : Record → String
  | event e => e.target
  | _ => queryTarget

/-- The particulars, in order: those of an event, and the length of the query that a span is made
for. -/
def fields : Record → List (String × FieldValue)
  | span bytes => [(spanField, .number bytes)]
  | event e => e.fields
  | _ => []

/-- The span that lies around what comes after the record, told by the one around the record. -/
def spanAfter (around : Option Nat) : Record → Option Nat
  | span bytes => some bytes
  | exit => none
  | _ => around

end Record

end Log

end QueryScan
