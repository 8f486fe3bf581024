import QueryScan.Alphabet
import QueryScan.Text.UpperCase
import QueryScan.Token.Basic

/-!
# Lexemes

A lexeme is a piece of a query that makes one token: a word, a run of digits, an operator
or a punctuation mark. Words and digit runs are taken as long as possible, so `SELECT1` is
one word and `12ab` is the number `12` before the word `ab`.

`Lexeme.first?` splits the first lexeme off a text. It fails in two cases only: the text is
empty, or its first character can start no lexeme.

## Main results

* `Lexeme.chars_append_of_first?`: the lexeme and what follows it make up the text.
* `Lexeme.chars_ne_nil_of_first?`: a lexeme is never empty, so each split makes progress
  (`Lexeme.length_lt_of_first?`).
* `Lexeme.first?_eq_none_iff`: no lexeme is found exactly when the text is empty or starts
  with a character of no class.
-/

namespace QueryScan

/-- The reserved words, in upper case. -/
def keywords : List String :=
  ["SELECT", "FROM", "WHERE", "AND", "OR", "NOT", "INSERT", "INTO", "VALUES", "UPDATE", "SET",
    "DELETE"]

/-- The word, which is upper case already, is reserved. -/
def isKeyword (word : String) : Bool :=
  keywords.contains word

/-- A piece of a query that makes one token. -/
structure Lexeme where
  /-- The class of the first character, which decides how far the lexeme reaches. -/
  start : CharClass
  /-- The characters, as written. -/
  chars : List Char
  deriving DecidableEq, Repr

namespace Lexeme

/-- The token of a word: its upper case, which is reserved or a name. -/
def wordToken (chars : List Char) : Token :=
  let text := String.ofList (upperCase chars)
  ⟨if isKeyword text then .keyword else .identifier, text⟩

/-- The token that a lexeme makes. Words are upper-cased, everything else is kept. -/
def token (l : Lexeme) : Token :=
  match l.start with
  | .letter => wordToken l.chars
  | .digit => ⟨.literal, String.ofList l.chars⟩
  | .operator => ⟨.operator, String.ofList l.chars⟩
  | .punctuation => ⟨.punctuation, String.ofList l.chars⟩

/-- The number of characters of the lexeme. -/
def length (l : Lexeme) : Nat :=
  l.chars.length

/-- Splits the first lexeme off a text. -/
def first? : List Char → Option (Lexeme × List Char)
  | [] => none
  | c :: cs =>
    if isLetter c then
      some (⟨.letter, c :: cs.takeWhile isWordChar⟩, cs.dropWhile isWordChar)
    else if isDigit c then
      some (⟨.digit, c :: cs.takeWhile isDigit⟩, cs.dropWhile isDigit)
    else if isOperator c then
      some (⟨.operator, [c]⟩, cs)
    else if isPunctuation c then
      some (⟨.punctuation, [c]⟩, cs)
    else
      none

/-! ### What a split keeps -/

/-- The empty text has no lexeme. -/
@[simp] theorem first?_nil : first? [] = none := rfl

/-- **Nothing is lost**: a lexeme and what follows it make up the text. -/
theorem chars_append_of_first? {cs rest : List Char} {l : Lexeme}
    (h : first? cs = some (l, rest)) : l.chars ++ rest = cs := by
  cases cs with
  | nil => simp at h
  | cons c cs =>
    simp only [first?] at h
    split at h
    · obtain ⟨rfl, rfl⟩ := Prod.mk.inj (Option.some.inj h)
      simp [List.takeWhile_append_dropWhile]
    · split at h
      · obtain ⟨rfl, rfl⟩ := Prod.mk.inj (Option.some.inj h)
        simp [List.takeWhile_append_dropWhile]
      · split at h
        · obtain ⟨rfl, rfl⟩ := Prod.mk.inj (Option.some.inj h)
          rfl
        · split at h
          · obtain ⟨rfl, rfl⟩ := Prod.mk.inj (Option.some.inj h)
            rfl
          · simp at h

/-- A lexeme that is split off has at least one character. -/
theorem chars_ne_nil_of_first? {cs rest : List Char} {l : Lexeme}
    (h : first? cs = some (l, rest)) : l.chars ≠ [] := by
  cases cs with
  | nil => simp at h
  | cons c cs =>
    simp only [first?] at h
    split at h
    · obtain ⟨rfl, -⟩ := Prod.mk.inj (Option.some.inj h)
      simp
    · split at h
      · obtain ⟨rfl, -⟩ := Prod.mk.inj (Option.some.inj h)
        simp
      · split at h
        · obtain ⟨rfl, -⟩ := Prod.mk.inj (Option.some.inj h)
          simp
        · split at h
          · obtain ⟨rfl, -⟩ := Prod.mk.inj (Option.some.inj h)
            simp
          · simp at h

/-- Splitting off a lexeme makes progress: what follows it is shorter than the text. -/
theorem length_lt_of_first? {cs rest : List Char} {l : Lexeme}
    (h : first? cs = some (l, rest)) : rest.length < cs.length := by
  have hne : 0 < l.chars.length := List.length_pos_iff.2 (chars_ne_nil_of_first? h)
  rw [← chars_append_of_first? h, List.length_append]
  omega

/-- **When nothing can be split off**: the text is empty, or its first character is of no
class. -/
theorem first?_eq_none_iff {cs : List Char} :
    first? cs = none ↔ ∀ c ∈ cs.head?, classes c = [] := by
  cases cs with
  | nil => simp
  | cons c cs =>
    simp only [first?, classes, CharClass.all, CharClass.holds, List.head?_cons,
      Option.mem_def, Option.some.injEq, forall_eq']
    cases hl : isLetter c <;> cases hd : isDigit c <;> cases ho : isOperator c <;>
      cases hp : isPunctuation c <;> simp [hl, hd, ho, hp]

/-- The token of a lexeme is never the end mark. -/
theorem isEnd_token (l : Lexeme) : l.token.isEnd = false := by
  unfold token
  split
  · unfold wordToken
    dsimp only
    split <;> rfl
  · rfl
  · rfl
  · rfl

end Lexeme

end QueryScan
