import QueryScan.JsonValue.Numeral

/-!
# Symbols of a structured value in text

A structured value is written as a row of symbols: brackets and braces, commas and colons,
and scalars. Blanks between symbols count for nothing.

A string stands between quotes. In it a backslash starts an escape, which stands for one
character: a letter for it, or four hexadecimal digits. A character beyond the first `2 ^ 16`
takes two escapes of the second kind, whose numbers are of two kinds of halves; neither half
means anything alone. Control characters have to be escaped.

What stands between blanks and other symbols is a word: a truth value, null or a number.

## Main results

* `symbolsFrom_plain`: a string without escapes is read as it stands.
-/

namespace QueryScan

namespace JsonValue

/-- A symbol. -/
inductive Symbol where
  | openArray
  | closeArray
  | openObject
  | closeObject
  | comma
  | colon
  /-- A value without others in it. -/
  | scalar (value : JsonValue)

/-- The symbol that a character stands for by itself. -/
def Symbol.ofChar? : Char → Option Symbol
  | '[' => some .openArray
  | ']' => some .closeArray
  | '\x7b' => some .openObject
  | '\x7d' => some .closeObject
  | ',' => some .comma
  | ':' => some .colon
  | _ => none

/-! ### Words -/

/-- The character may stand in a word. -/
def isWordChar (c : Char) : Bool :=
  c.isAlphanum || c == '+' || c == '-' || c == '.'

/-- The value that a word stands for. -/
def ofWord? (cs : List Char) : Option JsonValue :=
  if cs = "null".toList then some .null
  else if cs = "true".toList then some (.bool true)
  else if cs = "false".toList then some (.bool false)
  else (Numeral.ofText? cs).bind Numeral.value?

/-! ### Strings -/

/-- How far the spelling of a character in a string has come. If the first half of a pair
has been read, its number is kept until the second half is complete. -/
inductive Spelling where
  /-- A character or an escape starts here. -/
  | start (first : Option Nat)
  /-- A backslash has been read. -/
  | escape (first : Option Nat)
  /-- Of four hexadecimal digits some are still to come, after those with this value. -/
  | code (first : Option Nat) (left value : Nat)

/-- The character that a letter after a backslash stands for. -/
def ofEscape? : Char → Option Char
  | '\x22' => some '\x22'
  | '\\' => some '\\'
  | '/' => some '/'
  | 'b' => some '\x08'
  | 'f' => some '\x0c'
  | 'n' => some '\n'
  | 'r' => some '\r'
  | 't' => some '\t'
  | _ => none

/-- The value of a hexadecimal digit. -/
def hexDigit? (c : Char) : Option Nat :=
  if c.isDigit then some (c.toNat - '0'.toNat)
  else if 'a' ≤ c ∧ c ≤ 'f' then some (c.toNat - 'a'.toNat + 10)
  else if 'A' ≤ c ∧ c ≤ 'F' then some (c.toNat - 'A'.toNat + 10)
  else none

/-- The number is that of the first half of a pair. -/
def isFirstHalf (n : Nat) : Bool :=
  decide (0xD800 ≤ n) && decide (n < 0xDC00)

/-- The number is that of the second half of a pair. -/
def isSecondHalf (n : Nat) : Bool :=
  decide (0xDC00 ≤ n) && decide (n < 0xE000)

/-- What four hexadecimal digits add to a string, after the first half of a pair if there is
one, and how the spelling goes on. -/
def ofCode? (first : Option Nat) (n : Nat) : Option (List Char × Spelling) :=
  match first with
  | some m =>
    if isSecondHalf n then
      some ([Char.ofNat (0x10000 + (m - 0xD800) * 0x400 + (n - 0xDC00))], .start none)
    else none
  | none =>
    if isFirstHalf n then some ([], .start (some n))
    else if isSecondHalf n then none
    else some ([Char.ofNat n], .start none)

/-- What the next character adds to a string, and how the spelling goes on. -/
def Spelling.next? : Spelling → Char → Option (List Char × Spelling)
  | start first, c =>
    if c = '\\' then some ([], escape first)
    else if first.isSome || decide (c.toNat < 0x20) then none
    else some ([c], start none)
  | escape first, c =>
    if c = 'u' then some ([], code first 4 0)
    else if first.isSome then none
    else (ofEscape? c).map fun d => ([d], start none)
  | code first left value, c =>
    match hexDigit? c with
    | none => none
    | some d =>
      if left ≤ 1 then ofCode? first (16 * value + d)
      else some ([], code first (left - 1) (16 * value + d))

/-- The string ends here if a quote follows. -/
def Spelling.isComplete : Spelling → Bool
  | start none => true
  | _ => false

/-! ### From characters to symbols -/

/-- Where a reader of symbols stands. What has been read of a symbol is kept with its last
character first. -/
inductive Place where
  /-- Between symbols. -/
  | between
  /-- In a word. -/
  | word (before : List Char)
  /-- In a string. -/
  | text (before : List Char) (spelling : Spelling)

/-- Where the next character leads to from between two symbols, and the symbols read so far,
the last one first. -/
def enter? (done : List Symbol) (c : Char) : Option (Place × List Symbol) :=
  if c = '\x22' then some (.text [] (.start none), done)
  else if isWordChar c then some (.word [c], done)
  else if c = ' ' ∨ c = '\t' ∨ c = '\n' ∨ c = '\r' then some (.between, done)
  else (Symbol.ofChar? c).map fun symbol => (.between, symbol :: done)

/-- Where the next character leads to, and the symbols read so far, the last one first. -/
def Place.next? (done : List Symbol) : Place → Char → Option (Place × List Symbol)
  | between, c => enter? done c
  | word before, c =>
    if isWordChar c then some (word (c :: before), done)
    else (ofWord? before.reverse).bind fun value => enter? (.scalar value :: done) c
  | text before spelling, c =>
    if spelling.isComplete && c == '\x22' then
      some (between, .scalar (.string (String.ofList before.reverse)) :: done)
    else (spelling.next? c).map fun (added, spelling) => (text (added ++ before) spelling, done)

/-- The symbols of a text, from a place in it on, after those that have been read already,
the last one first. -/
def symbolsFrom (place : Place) (done : List Symbol) : List Char → Option (List Symbol)
  | [] =>
    match place with
    | .between => some done.reverse
    | .word before => (ofWord? before.reverse).map fun value => (.scalar value :: done).reverse
    | .text _ _ => none
  | c :: cs =>
    match place.next? done c with
    | some (place, done) => symbolsFrom place done cs
    | none => none

/-- The symbols of a text. -/
def symbols? (cs : List Char) : Option (List Symbol) :=
  symbolsFrom .between [] cs

/-- A string without escapes is read as it stands. -/
theorem symbolsFrom_plain {cs : List Char}
    (h : ∀ c ∈ cs, c ≠ '\x22' ∧ c ≠ '\\' ∧ 0x20 ≤ c.toNat) (before : List Char)
    (done : List Symbol) (rest : List Char) :
    symbolsFrom (.text before (.start none)) done (cs ++ '\x22' :: rest) =
      symbolsFrom .between
        (.scalar (.string (String.ofList (before.reverse ++ cs))) :: done) rest := by
  induction cs generalizing before with
  | nil => simp [symbolsFrom, Place.next?, Spelling.isComplete]
  | cons c cs ih =>
    obtain ⟨hquote, hslash, hcontrol⟩ := h c (by simp)
    have hstep : Place.next? done (.text before (.start none)) c =
        some (.text (c :: before) (.start none), done) := by
      simp [Place.next?, Spelling.next?, Spelling.isComplete, hquote, hslash,
        Nat.not_lt.2 hcontrol]
    rw [List.cons_append, symbolsFrom, hstep]
    have htail := ih (fun d hd => h d (List.mem_cons_of_mem c hd)) (c :: before)
    simpa using htail

end JsonValue

end QueryScan
