import QueryScan.Text.Unprintable

/-!
# Quoted text

Diagnostics show characters and strings in quotes. A character that a reader could not see
as itself is escaped: NUL, tab, carriage return and line feed by a letter, the backslash
and the quote in use by a backslash before them, and the unprintable characters by their
code point in hexadecimal, `\u{301}`.

The same escapes serve both quotes; a quote of the other sort needs no escape.

## Main results

* `escape_of_printable`: a printable character other than the quote and the backslash is
  shown as itself.
-/

namespace QueryScan

/-- The quotation mark around a string. -/
def doubleQuote : Char := '\x22'

/-- The quotation mark around a character. -/
def singleQuote : Char := '\x27'

/-- The code point of a character in lower-case hexadecimal, without leading zeros. -/
def hexDigits (c : Char) : List Char :=
  Nat.toDigits 16 c.toNat

/-- How a character is shown between quotation marks of the given sort. -/
def escape (quote c : Char) : List Char :=
  if c = '\x00' then ['\\', '0']
  else if c = '\t' then ['\\', 't']
  else if c = '\r' then ['\\', 'r']
  else if c = '\n' then ['\\', 'n']
  else if c = '\\' ∨ c = quote then ['\\', c]
  else if isUnprintable c then ['\\', 'u', '\x7b'] ++ hexDigits c ++ ['\x7d']
  else [c]

/-- A text between quotation marks. -/
def quotedWith (quote : Char) (cs : List Char) : List Char :=
  quote :: cs.flatMap (escape quote) ++ [quote]

/-- A string in double quotes. -/
def quotedString (s : String) : String :=
  String.ofList (quotedWith doubleQuote s.toList)

/-- A character in single quotes. -/
def quotedChar (c : Char) : String :=
  String.ofList (quotedWith singleQuote [c])

/-- A printable character other than the quote and the backslash is shown as itself. -/
theorem escape_of_printable {quote c : Char} (hc : isUnprintable c = false) (hb : c ≠ '\\')
    (hq : c ≠ quote) : escape quote c = [c] := by
  have hcontrol : ['\x00', '\t', '\r', '\n'].all isUnprintable = true := by
    decide +kernel
  have hne : ∀ d ∈ ['\x00', '\t', '\r', '\n'], c ≠ d := by
    rintro d hd rfl
    simp [List.all_eq_true.1 hcontrol c hd] at hc
  simp only [List.mem_cons, List.not_mem_nil, or_false, forall_eq_or_imp, forall_eq] at hne
  obtain ⟨h0, ht, hr, hn⟩ := hne
  simp [escape, h0, ht, hr, hn, hb, hq, hc]

end QueryScan
