/-!
# Padding

A text can be fitted into a column: it is first cut to a precision, then filled up to a
width. The fill goes to the right of a text that is aligned left, to the left of one that
is aligned right, and to both sides of a centred one, with the smaller half on the left.
A text that is wider than the column is not cut by the width.

A layout is written as an optional fill character and an alignment mark, as in `*^`; any
other marks leave the defaults, a space and the left.

## Main results

* `Padding.length_applyChars`: the result is as wide as the wider of the text, once cut, and
  the column.
-/

namespace QueryScan

/-- Where a text stands in its column. -/
inductive Alignment where
  | left
  | center
  | right
  deriving DecidableEq, Repr

/-- The alignment that a mark stands for. -/
def Alignment.ofMark? (c : Char) : Option Alignment :=
  if c = '<' then some .left
  else if c = '^' then some .center
  else if c = '>' then some .right
  else none

/-- How a text is fitted into a column. -/
structure Padding where
  /-- The character that fills the column up. -/
  fill : Char
  /-- Where the text stands. -/
  align : Alignment
  /-- The least number of characters of the result. -/
  width : Nat
  /-- The number of characters to which the text is cut first, if any. -/
  precision : Option Nat
  deriving DecidableEq, Repr

namespace Padding

/-- The fill and the alignment that a layout asks for. -/
def layout : List Char → Char × Alignment
  | [] => (' ', .left)
  | c :: rest =>
    match rest.head?.bind Alignment.ofMark? with
    | some align => (c, align)
    | none => (' ', (Alignment.ofMark? c).getD .left)

/-- The padding with the given layout. -/
def ofLayout (spec : String) (width : Nat) (precision : Option Nat) : Padding :=
  let (fill, align) := layout spec.toList
  ⟨fill, align, width, precision⟩

/-- The text cut to the precision. -/
def cut (p : Padding) (cs : List Char) : List Char :=
  match p.precision with
  | some n => cs.take n
  | none => cs

/-- The number of fill characters before the text, of `missing` in all. -/
def before (p : Padding) (missing : Nat) : Nat :=
  match p.align with
  | .left => 0
  | .center => missing / 2
  | .right => missing

/-- The characters of a text, fitted into the column. -/
def applyChars (p : Padding) (cs : List Char) : List Char :=
  let text := p.cut cs
  let missing := p.width - text.length
  List.replicate (p.before missing) p.fill ++ text ++
    List.replicate (missing - p.before missing) p.fill

/-- A text, fitted into the column. -/
def apply (p : Padding) (s : String) : String :=
  String.ofList (p.applyChars s.toList)

/-- No more fill goes before the text than is missing. -/
theorem before_le (p : Padding) (missing : Nat) : p.before missing ≤ missing := by
  unfold before
  split <;> omega

/-- The result is as wide as the wider of the cut text and the column. -/
theorem length_applyChars (p : Padding) (cs : List Char) :
    (p.applyChars cs).length = max (p.cut cs).length p.width := by
  have := p.before_le (p.width - (p.cut cs).length)
  simp only [applyChars, List.length_append, List.length_replicate]
  omega

end Padding

end QueryScan
