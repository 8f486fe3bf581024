import QueryScan.JsonValue
import QueryScan.Token.Basic

/-!
# Tokens as structured values

A kind is written as its name, and is also accepted as an object whose only member has that
name and is null. A token is written as an object with the members `kind` and `text`; other
members are ignored when it is read, and an array of the two is accepted as well.

Of several things that are wrong, the first in this order is reported: for an object, a bad
`kind`, a bad `text`, a missing `kind`, a missing `text`; for an array, a bad first item, a
bad second item, a wrong length.

## Main results

* `Kind.ofJson_toJson`, `Token.ofJson_toJson`, `Token.listOfJson_listToJson`: what is
  written is read back.
-/

namespace QueryScan

/-- What a reader of structured values was looking for. -/
inductive Expected where
  | kind
  | unit
  | text
  | token
  | tokens
  deriving DecidableEq, Repr

/-- What was looked for, in the words of an error message. -/
def Expected.describe : Expected → String
  | kind => "string or map"
  | unit => "unit"
  | text => "a string"
  | token => "struct Token"
  | tokens => "a sequence"

/-- Why a structured value is no token. -/
inductive JsonError where
  /-- Another sort of value was expected. -/
  | wrongType (found : JsonValue) (expected : Expected)
  /-- No kind has this name. -/
  | unknownKind (name : String)
  /-- A kind is an object of one member. -/
  | notSingleMember
  /-- A token has no member of this name. -/
  | missingMember (name : String)
  /-- A token is an array of fewer than two items. -/
  | tooShort (length : Nat)
  /-- A token is an array of more than two items. -/
  | tooLong (length : Nat)

/-- The error in words. -/
def JsonError.message : JsonError → String
  | wrongType found expected =>
    "invalid type: " ++ found.describe ++ ", expected " ++ expected.describe
  | unknownKind name =>
    "unknown variant `" ++ name ++ "`, expected one of " ++
      String.intercalate ", " (Kind.all.map fun k => "`" ++ k.name ++ "`")
  | notSingleMember => "invalid value: map, expected map with a single key"
  | missingMember name => "missing field `" ++ name ++ "`"
  | tooShort length =>
    "invalid length " ++ toString length ++ ", expected struct Token with 2 elements"
  | tooLong length => "invalid length " ++ toString length ++ ", expected fewer elements in array"

namespace Kind

/-- The kind as a structured value. -/
def toJson (k : Kind) : JsonValue :=
  .string k.name

/-- The kind with the given name, or the error that there is none. -/
def named (name : String) : Except JsonError Kind :=
  match ofName? name with
  | some k => .ok k
  | none => .error (.unknownKind name)

/-- Reads a kind. -/
def ofJson : JsonValue → Except JsonError Kind
  | .string name => named name
  | .object [(name, .null)] => named name
  | .object [(name, value)] => do
    let _ ← named name
    throw (.wrongType value .unit)
  | .object _ => throw .notSingleMember
  | value => throw (.wrongType value .kind)

end Kind

/-- Reads a text. -/
def textOfJson : JsonValue → Except JsonError String
  | .string s => .ok s
  | value => .error (.wrongType value .text)

namespace Token

/-- The token as a structured value. -/
def toJson (t : Token) : JsonValue :=
  .object [("kind", t.kind.toJson), ("text", .string t.text)]

/-- The tokens as a structured value. -/
def listToJson (ts : List Token) : JsonValue :=
  .array (ts.map toJson)

/-- Reads the member with the given name, if there is one. -/
def member? {α : Type} (members : List (String × JsonValue)) (name : String)
    (read : JsonValue → Except JsonError α) : Except JsonError (Option α) :=
  match members.lookup name with
  | some value => (read value).map some
  | none => .ok none

/-- Reads a token from the members of an object. -/
def ofMembers (members : List (String × JsonValue)) : Except JsonError Token := do
  let kind? ← member? members "kind" Kind.ofJson
  let text? ← member? members "text" textOfJson
  match kind?, text? with
  | none, _ => throw (.missingMember "kind")
  | some _, none => throw (.missingMember "text")
  | some kind, some text => return ⟨kind, text⟩

/-- Reads a token from the items of an array. -/
def ofItems : List JsonValue → Except JsonError Token
  | [] => throw (.tooShort 0)
  | [kind] => do
    let _ ← Kind.ofJson kind
    throw (.tooShort 1)
  | kind :: text :: rest => do
    let kind ← Kind.ofJson kind
    let text ← textOfJson text
    if rest.isEmpty then return ⟨kind, text⟩
    else throw (.tooLong (rest.length + 2))

/-- Reads a token. -/
def ofJson : JsonValue → Except JsonError Token
  | .object members => ofMembers members
  | .array items => ofItems items
  | value => throw (.wrongType value .token)

/-- Reads a list of tokens. The first item that is no token decides the error. -/
def listOfJson : JsonValue → Except JsonError (List Token)
  | .array items => items.mapM ofJson
  | value => throw (.wrongType value .tokens)

end Token

/-! ### What is written is read back -/

/-- A kind that is written is read back. -/
@[simp] theorem Kind.ofJson_toJson (k : Kind) : Kind.ofJson k.toJson = .ok k := by
  simp [Kind.ofJson, Kind.toJson, Kind.named]

/-- A token that is written is read back. -/
@[simp] theorem Token.ofJson_toJson (t : Token) : Token.ofJson t.toJson = .ok t := by
  have hkind : member? [("kind", t.kind.toJson), ("text", .string t.text)] "kind" Kind.ofJson =
      .ok (some t.kind) := by
    change (Kind.ofJson t.kind.toJson).map some = .ok (some t.kind)
    rw [Kind.ofJson_toJson]
    rfl
  have htext : member? [("kind", t.kind.toJson), ("text", .string t.text)] "text" textOfJson =
      .ok (some t.text) := rfl
  change ofMembers _ = _
  unfold ofMembers
  rw [hkind, htext]
  rfl

/-- A list of tokens that is written is read back. -/
@[simp] theorem Token.listOfJson_listToJson (ts : List Token) :
    Token.listOfJson (Token.listToJson ts) = .ok ts := by
  simp only [Token.listOfJson, Token.listToJson]
  induction ts with
  | nil => rfl
  | cons t ts ih =>
    rw [List.map_cons, List.mapM_cons, Token.ofJson_toJson]
    simp only [bind, Except.bind]
    rw [ih]
    rfl

end QueryScan
