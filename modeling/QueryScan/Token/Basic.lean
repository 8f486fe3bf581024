/-!
# Tokens

A token is a kind and a text. Scanning a query yields keywords, identifiers, literals,
operators and punctuation, and the end mark after the last of them; the kinds for white
space and comments belong to the vocabulary of the interchange formats and are never
produced by a scan.

## Main results

* `Kind.ofIndex?_index`, `Kind.index_of_ofIndex?`: the index of a kind identifies it.
* `Kind.ofName?_name`, `Kind.name_of_ofName?`: so does its name.
-/

namespace QueryScan

/-- The kinds of token, in the order of their indices in the binary format. -/
inductive Kind where
  | keyword
  | identifier
  | literal
  | operator
  | punctuation
  | whitespace
  | comment
  | endMark
  deriving DecidableEq, Repr

namespace Kind

/-- All kinds, by index. -/
def all : List Kind :=
  [keyword, identifier, literal, operator, punctuation, whitespace, comment, endMark]

/-- The name that messages and log lines show. -/
def label : Kind → String
  | keyword => "KEYWORD"
  | identifier => "IDENTIFIER"
  | literal => "LITERAL"
  | operator => "OPERATOR"
  | punctuation => "PUNCTUATION"
  | whitespace => "WHITESPACE"
  | comment => "COMMENT"
  | endMark => "END"

/-- The name that the interchange formats use. -/
def name : Kind → String
  | keyword => "Keyword"
  | identifier => "Identifier"
  | literal => "Literal"
  | operator => "Operator"
  | punctuation => "Punctuation"
  | whitespace => "Whitespace"
  | comment => "Comment"
  | endMark => "End"

/-- The place of the kind among all kinds. -/
def index : Kind → Nat
  | keyword => 0
  | identifier => 1
  | literal => 2
  | operator => 3
  | punctuation => 4
  | whitespace => 5
  | comment => 6
  | endMark => 7

/-- The kind with the given index. -/
def ofIndex? (i : Nat) : Option Kind :=
  all[i]?

/-- The kind with the given name. -/
def ofName? (s : String) : Option Kind :=
  all.find? fun k => k.name == s

/-- The index of a kind leads back to it. -/
@[simp] theorem ofIndex?_index (k : Kind) : ofIndex? k.index = some k := by
  cases k <;> rfl

/-- A kind found at an index has that index. -/
theorem index_of_ofIndex? {i : Nat} {k : Kind} (h : ofIndex? i = some k) : k.index = i := by
  obtain ⟨hi, rfl⟩ := List.getElem?_eq_some_iff.1 h
  have hall : ∀ (i : Nat) (hi : i < all.length), index all[i] = i := by decide
  exact hall i hi

/-- The name of a kind leads back to it. -/
@[simp] theorem ofName?_name (k : Kind) : ofName? k.name = some k := by
  cases k <;> decide +kernel

/-- A kind found under a name has that name. -/
theorem name_of_ofName? {s : String} {k : Kind} (h : ofName? s = some k) : k.name = s := by
  have := List.find?_some h
  exact eq_of_beq this

end Kind

/-- A token: its kind and its text. -/
structure Token where
  /-- What sort of token it is. -/
  kind : Kind
  /-- Its text: upper-cased for words, as written for everything else. -/
  text : String
  deriving DecidableEq, Repr

namespace Token

/-- The token that closes every successful scan. -/
def endMark : Token :=
  ⟨.endMark, ""⟩

/-- The token is of the end kind, whatever its text. -/
def isEnd (t : Token) : Bool :=
  t.kind == .endMark

/-- The end mark is of the end kind. -/
@[simp] theorem isEnd_endMark : endMark.isEnd = true := rfl

end Token

end QueryScan
