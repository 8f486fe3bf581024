import QueryScan.Scanner
import QueryScan.Text.RangeMap

/-!
# Surveys of code points

A survey walks over a range of code points and reports what the library makes of the
characters in it: in which class they are, or under which text a scanner reports a letter.
Code points that are no characters are passed over, and a walk ends at the greatest code
point, wherever the range ends.

## Main results

* `Survey.mem_codes_iff`: a walk visits exactly the code points of the range.
* `Survey.char?_eq_none`: there is no character above the greatest code point.
-/

namespace QueryScan

namespace Survey

/-- The greatest code point. -/
def greatest : Nat := 0x10FFFF

/-- The code points from `first` to `last`, both included. -/
def codes (first last : Nat) : List Nat :=
  List.range' first (min last greatest + 1 - first)

/-- The character with the given code point. -/
def char? (code : Nat) : Option Char :=
  if code.isValidChar then some (Char.ofNat code) else none

/-- Adds a code point in front of the runs of the code points after it. A code point of no
class makes no run. -/
def addRun (code : Nat) (runs : List (Span String)) : List (Span String) :=
  match (char? code).map classMarks with
  | none => runs
  | some marks =>
    if marks.isEmpty then runs
    else
      match runs with
      | [] => [⟨code, code, marks⟩]
      | run :: rest =>
        if run.first = code + 1 ∧ run.value = marks then ⟨code, run.last, marks⟩ :: rest
        else ⟨code, code, marks⟩ :: run :: rest

/-- The longest runs of consecutive code points with the same class marks, in order. -/
def classRuns (first last : Nat) : List (Span String) :=
  (codes first last).foldr addRun []

/-- The text under which a scanner reports a character that stands alone. -/
def reported? (c : Char) : Option String :=
  (Scanner.ofText [c]).next.1.toOption.map Token.text

/-- A letter that is reported under another text than itself, with that text. -/
def caseChange? (code : Nat) : Option (Char × String) := do
  let c ← char? code
  guard (isLetter c)
  let text ← reported? c
  guard (text ≠ String.ofList [c])
  return (c, text)

/-- The letters of a range that are reported under another text, in order. -/
def caseChanges (first last : Nat) : List (Char × String) :=
  (codes first last).filterMap caseChange?

/-- A walk visits exactly the code points of the range. -/
theorem mem_codes_iff {first last code : Nat} :
    code ∈ codes first last ↔ first ≤ code ∧ code ≤ last ∧ code ≤ greatest := by
  simp only [codes, List.mem_range'_1]
  omega

/-- There is no character above the greatest code point. -/
theorem char?_eq_none {code : Nat} (h : greatest < code) : char? code = none := by
  unfold greatest at h
  have hnot : ¬code.isValidChar := by
    unfold Nat.isValidChar
    omega
  rw [char?, if_neg hnot]

end Survey

end QueryScan
