import QueryScan.Text.Digit
import QueryScan.Text.Letter

/-!
# The alphabet of queries

A query is written with letters and digits of any script, the underscore, nine operator
characters and four punctuation characters. Every other character, blanks included, is
foreign to the language.

The four classes are disjoint, so the class of a character decides alone what kind of
lexeme it can start.

## Main results

* `mem_classes_iff`: the classes reported for a character are those it belongs to.
* `isLetter_and_isDigit`, `classes_of_isOperator`, `classes_of_isPunctuation`: no character
  belongs to two classes.
-/

namespace QueryScan

/-- The classes of characters that can start a lexeme. -/
inductive CharClass where
  | letter
  | digit
  | operator
  | punctuation
  deriving DecidableEq, Repr

/-- The operator characters. -/
def operators : List Char :=
  ['=', '>', '<', '+', '-', '*', '/', '%', '!']

/-- The punctuation characters. -/
def punctuations : List Char :=
  [',', ';', '(', ')']

/-- The character is an operator. -/
def isOperator (c : Char) : Bool :=
  operators.contains c

/-- The character is a punctuation mark. -/
def isPunctuation (c : Char) : Bool :=
  punctuations.contains c

/-- The character can continue a word. Only a letter can start one. -/
def isWordChar (c : Char) : Bool :=
  isLetter c || isDigit c || c == '_'

namespace CharClass

/-- The four classes, in the order in which they are reported. -/
def all : List CharClass :=
  [letter, digit, operator, punctuation]

/-- The character belongs to the class. -/
def holds : CharClass → Char → Bool
  | letter => isLetter
  | digit => isDigit
  | operator => isOperator
  | punctuation => isPunctuation

/-- The letter that stands for the class in a report. -/
def mark : CharClass → Char
  | letter => 'L'
  | digit => 'D'
  | operator => 'O'
  | punctuation => 'P'

end CharClass

/-- The classes of a character: one at most, and none for a foreign character or `_`. -/
def classes (c : Char) : List CharClass :=
  CharClass.all.filter fun k => k.holds c

/-- The classes of a character as a report shows them: a string of class marks. -/
def classMarks (c : Char) : String :=
  String.ofList ((classes c).map CharClass.mark)

/-- The classes reported for a character are those it belongs to. -/
theorem mem_classes_iff {k : CharClass} {c : Char} : k ∈ classes c ↔ k.holds c = true := by
  cases k <;> simp [classes, CharClass.all]

/-! ### The classes are disjoint -/

/-- No character is both a letter and a digit: each range of digits lies between two
neighbouring ranges of letters. -/
theorem isLetter_and_isDigit (c : Char) : (isLetter c && isDigit c) = false := by
  have hsep : ∀ s ∈ digits.toList, ∀ n, s.first ≤ n → n ≤ s.last →
      letters.contains n = false := by
    have hlist : ∀ s ∈ digits.toList, ∀ k < s.last + 1 - s.first,
        letters.contains (s.first + k) = false := by
      decide +kernel
    intro s hs n hn hm
    have := hlist s hs (n - s.first) (by omega)
    rwa [Nat.add_sub_cancel' hn] at this
  cases hd : isDigit c with
  | false => simp
  | true =>
    obtain ⟨s, hs, hcov⟩ := (RangeMap.contains_iff digits_ordered).1 hd
    simpa [isLetter] using hsep s hs c.toNat hcov.1 hcov.2

/-- An operator is of no other class. -/
theorem classes_of_isOperator {c : Char} (h : isOperator c = true) : classes c = [.operator] := by
  have hall : operators.all (fun c => classes c == [.operator]) = true := by decide +kernel
  simpa using List.all_eq_true.1 hall c (by simpa [isOperator] using h)

/-- A punctuation mark is of no other class. -/
theorem classes_of_isPunctuation {c : Char} (h : isPunctuation c = true) :
    classes c = [.punctuation] := by
  have hall : punctuations.all (fun c => classes c == [.punctuation]) = true := by decide +kernel
  simpa using List.all_eq_true.1 hall c (by simpa [isPunctuation] using h)

/-- The underscore belongs to no class: it can continue a word and start nothing. -/
theorem classes_underscore : classes '_' = [] := by
  decide +kernel

end QueryScan
