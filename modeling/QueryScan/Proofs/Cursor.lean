import QueryScan.Proofs.Tokenization

/-!
# Cursors

A scanner keeps the characters ahead of it as a list, so it has no index that could miss
the text. A **cursor** is the indexed form of a scanner: a text, an index into it about
which nothing is known, and loops that read the text at the index, move the index by one and
cut pieces out between two indices. A read outside of the text and a cut that does not lie
within it have no result (`Cursor.current?`, `Cursor.cut?`), and neither has anything that
depends on one.

The module shows that this never happens: over any calls, a cursor that stands where a
scanner stands gives the answers of the scanner and moves as it does.

## Main results

* `Cursor.skipWhile?_eq`: the inner loop stops at the end of the run ahead of it.
* `Cursor.next?_ofScanner`, `Cursor.tokenizeOnto?_ofScanner`: the next token and all tokens
  have a result, that of the scanner.
* `Cursor.session?_ofScanner`: so has every sequence of calls.
-/

namespace QueryScan

open Lexeme

/-- A text and an index into it. -/
structure Cursor where
  /-- The whole text. -/
  text : List Char
  /-- The index of the character ahead, if it is one of the text. -/
  position : Nat

namespace Cursor

/-- A cursor at the start of a text. -/
def ofText (text : List Char) : Cursor :=
  ⟨text, 0⟩

/-- The cursor that stands where a scanner stands. -/
def ofScanner (s : Scanner) : Cursor :=
  ⟨s.text, s.position⟩

/-- The index is past all characters. -/
def atEnd (c : Cursor) : Bool :=
  decide (c.text.length ≤ c.position)

/-- The character at the index. There is none outside of the text. -/
def current? (c : Cursor) : Option Char :=
  c.text[c.position]?

/-- The same cursor, one character further. -/
def advance (c : Cursor) : Cursor :=
  ⟨c.text, c.position + 1⟩

/-- The characters from one index up to another. There are none unless both lie within the
text, in this order. -/
def cut? (text : List Char) (start stop : Nat) : Option (List Char) :=
  if start ≤ stop ∧ stop ≤ text.length then some ((text.drop start).take (stop - start))
  else none

/-- Moves over the characters ahead that pass the test. -/
def skipWhile? (test : Char → Bool) (c : Cursor) : Option Cursor :=
  if c.atEnd then some c
  else
    match c.current? with
    | none => none
    | some d => if test d then skipWhile? test c.advance else some c
termination_by c.text.length - c.position
decreasing_by
  simp_all only [atEnd, advance, decide_eq_true_eq]
  omega

/-- Moves over the characters ahead that pass the test, and cuts them out. -/
def takeWhile? (test : Char → Bool) (c : Cursor) : Option (List Char × Cursor) := do
  let c' ← c.skipWhile? test
  let chars ← cut? c.text c.position c'.position
  return (chars, c')

/-- The next token, or the rejection of the character ahead; and the cursor afterwards. -/
def next? (c : Cursor) : Option (Except Rejection Token × Cursor) :=
  if c.atEnd then some (.ok .endMark, c)
  else do
    let d ← c.current?
    if isLetter d then do
      let (word, c') ← c.takeWhile? isWordChar
      return (.ok (wordToken word), c')
    else if isDigit d then do
      let (number, c') ← c.takeWhile? isDigit
      return (.ok ⟨.literal, String.ofList number⟩, c')
    else if isOperator d then
      return (.ok ⟨.operator, String.ofList [d]⟩, c.advance)
    else if isPunctuation d then
      return (.ok ⟨.punctuation, String.ofList [d]⟩, c.advance)
    else
      return (.error ⟨d, c.position⟩, c)

/-! ### Reading at the index -/

/-- A cursor with a character at its index is not past all characters. -/
theorem atEnd_of_current? {c : Cursor} {d : Char} (h : c.current? = some d) :
    c.atEnd = false := by
  have hlt : c.position < c.text.length := (List.getElem?_eq_some_iff.mp h).1
  simpa [atEnd] using hlt

/-- The inner loop decides by the character at the index whether it goes on. -/
theorem skipWhile?_of_current? {c : Cursor} {d : Char} (h : c.current? = some d)
    (test : Char → Bool) :
    c.skipWhile? test = if test d then c.advance.skipWhile? test else some c := by
  rw [skipWhile?, atEnd_of_current? h, h]
  rfl

/-- Where a scanner stands, the character at the index is the first that is ahead. -/
theorem current?_ofScanner (s : Scanner) : (ofScanner s).current? = s.rest.head? := by
  rw [s.rest_eq, List.head?_drop]
  rfl

/-- Where a scanner stands with nothing ahead, the index is past all characters. -/
theorem atEnd_ofScanner {s : Scanner} (h : s.rest = []) : (ofScanner s).atEnd = true := by
  rw [s.rest_eq, List.drop_eq_nil_iff] at h
  exact decide_eq_true h

/-! ### The inner loop -/

/-- **The inner loop** stops at the end of the run ahead of it. Induction on what is ahead:
the characters already passed only shift the index. -/
theorem skipWhile?_eq (test : Char → Bool) (passed ahead : List Char) :
    skipWhile? test ⟨passed ++ ahead, passed.length⟩ =
      some ⟨passed ++ ahead, passed.length + (ahead.takeWhile test).length⟩ := by
  induction ahead generalizing passed with
  | nil =>
      rw [skipWhile?]
      simp [atEnd]
  | cons d ahead ih =>
      have hcur : current? ⟨passed ++ d :: ahead, passed.length⟩ = some d := by
        simp [current?]
      have hstep := ih (passed ++ [d])
      rw [List.append_assoc, List.singleton_append, List.length_append] at hstep
      rw [skipWhile?_of_current? hcur]
      cases hd : test d with
      | false => simp [hd]
      | true =>
          refine hstep.trans ?_
          simp [hd, Nat.add_assoc, Nat.add_comm 1]

/-- Where a scanner stands, the inner loop passes the run ahead of the scanner. -/
theorem skipWhile?_ofScanner (s : Scanner) (test : Char → Bool) :
    (ofScanner s).skipWhile? test =
      some ⟨s.text, s.position + (s.rest.takeWhile test).length⟩ := by
  have hloop := skipWhile?_eq test (s.text.take s.position) s.rest
  rw [s.rest_eq, List.take_append_drop, List.length_take_of_le s.position_le,
    ← s.rest_eq] at hloop
  exact hloop

/-- Where a scanner stands, the characters up to a place ahead of it can be cut out. -/
theorem cut?_ofScanner (s : Scanner) {n : Nat} (hn : n ≤ s.rest.length) :
    cut? s.text s.position (s.position + n) = some (s.rest.take n) := by
  have hle : s.position + n ≤ s.text.length := by
    rw [s.rest_eq, List.length_drop] at hn
    have := s.position_le
    omega
  rw [cut?, if_pos ⟨Nat.le_add_right _ _, hle⟩, Nat.add_sub_cancel_left, s.rest_eq]

/-- Where a scanner stands, the run ahead of the scanner is passed and cut out. -/
theorem takeWhile?_ofScanner (s : Scanner) (test : Char → Bool) :
    (ofScanner s).takeWhile? test =
      some (s.rest.takeWhile test, ⟨s.text, s.position + (s.rest.takeWhile test).length⟩) := by
  have hle : (s.rest.takeWhile test).length ≤ s.rest.length :=
    (List.takeWhile_prefix test).length_le
  have htake : s.rest.take (s.rest.takeWhile test).length = s.rest.takeWhile test :=
    (List.prefix_iff_eq_take.mp (List.takeWhile_prefix test)).symm
  have hcut := cut?_ofScanner s hle
  rw [htake] at hcut
  rw [takeWhile?, skipWhile?_ofScanner]
  simp only [Option.bind_eq_bind, Option.bind_some, ofScanner, hcut]
  rfl

/-! ### Calls -/

/-- Where a scanner stands in front of a character of some class, the lexeme of that class is
read. -/
theorem next?_of_holds {s : Scanner} {d : Char} {tail : List Char} (hr : s.rest = d :: tail)
    {k : CharClass} (hk : k.holds d = true) :
    (ofScanner s).next? =
      some (.ok (token ⟨k, d :: tail.takeWhile k.continues⟩),
        ⟨s.text, s.position + (d :: tail.takeWhile k.continues).length⟩) := by
  have hcur : (ofScanner s).current? = some d := by rw [current?_ofScanner, hr]; rfl
  have hl := CharClass.holds_eq_false hk .letter
  have hd := CharClass.holds_eq_false hk .digit
  have ho := CharClass.holds_eq_false hk .operator
  have hnone : tail.takeWhile (fun _ => false) = [] := by cases tail <;> simp
  rw [next?, atEnd_of_current? hcur, hcur]
  cases k with
  | letter =>
      have hk : isLetter d = true := hk
      have hword : isWordChar d = true := by simp [isWordChar, hk]
      simp [hk, takeWhile?_ofScanner, hr, hword, token, CharClass.continues]
  | digit =>
      have hk : isDigit d = true := hk
      have hl : isLetter d = false := hl (by simp)
      simp [hk, hl, takeWhile?_ofScanner, hr, token, CharClass.continues]
  | operator =>
      have hk : isOperator d = true := hk
      have hl : isLetter d = false := hl (by simp)
      have hd : isDigit d = false := hd (by simp)
      simp [hk, hl, hd, token, CharClass.continues, hnone, advance, ofScanner]
  | punctuation =>
      have hk : isPunctuation d = true := hk
      have hl : isLetter d = false := hl (by simp)
      have hd : isDigit d = false := hd (by simp)
      have ho : isOperator d = false := ho (by simp)
      simp [hk, hl, hd, ho, token, CharClass.continues, hnone, advance, ofScanner]

/-- Where a scanner stands in front of a character of no class, that character is rejected. -/
theorem next?_of_classes {s : Scanner} {d : Char} {tail : List Char} (hr : s.rest = d :: tail)
    (hc : classes d = []) :
    (ofScanner s).next? = some (.error ⟨d, s.position⟩, ofScanner s) := by
  have hcur : (ofScanner s).current? = some d := by rw [current?_ofScanner, hr]; rfl
  have hnot := CharClass.holds_eq_false_of_classes hc
  have hl : isLetter d = false := hnot .letter
  have hd : isDigit d = false := hnot .digit
  have ho : isOperator d = false := hnot .operator
  have hp : isPunctuation d = false := hnot .punctuation
  rw [next?, atEnd_of_current? hcur, hcur]
  simp [hl, hd, ho, hp, ofScanner]

/-- **The next token** is read without missing the text, and it is that of the scanner. -/
theorem next?_ofScanner (s : Scanner) :
    (ofScanner s).next? = some (s.next.1, ofScanner s.next.2) := by
  rcases s.next_cases with ⟨l, rest, hf, hn⟩ | ⟨hr, hn⟩ | ⟨d, cs, hr, hc, hn⟩
  · obtain ⟨d, tail, hr, hk, hchars, -⟩ := exists_of_first? hf
    have hl : l = ⟨l.start, d :: tail.takeWhile l.start.continues⟩ := by rw [← hchars]
    rw [hn, next?_of_holds hr hk, ← hl, ← hchars]
    rfl
  · rw [hn, next?, atEnd_ofScanner hr]
    rfl
  · rw [hn, next?_of_classes hr hc]

/-- A cursor that stands where no scanner does is past all characters. -/
theorem exists_scanner (c : Cursor) : c.atEnd = true ∨ ∃ s : Scanner, c = ofScanner s := by
  rcases Nat.lt_or_ge c.position c.text.length with hlt | hge
  · exact Or.inr ⟨⟨c.text, c.position, _, Nat.le_of_lt hlt, rfl⟩, rfl⟩
  · exact Or.inl (decide_eq_true hge)

/-- A token other than the end mark is progress: fewer characters are ahead afterwards. -/
theorem lt_of_next? {c c' : Cursor} {t : Token} (h : c.next? = some (.ok t, c'))
    (ht : t.isEnd = false) : c'.text.length - c'.position < c.text.length - c.position := by
  rcases c.exists_scanner with hend | ⟨s, rfl⟩
  · rw [next?, if_pos hend] at h
    obtain rfl : Token.endMark = t := by simpa using congrArg Prod.fst (Option.some.inj h)
    exact absurd ht (by simp)
  · rw [next?_ofScanner] at h
    obtain ⟨htok, rfl⟩ := Prod.mk.inj (Option.some.inj h)
    have := Scanner.length_rest_lt_of_next (Prod.ext htok rfl) ht
    rw [Scanner.rest_eq, Scanner.rest_eq, List.length_drop, List.length_drop] at this
    exact this

/-- All tokens from here to the end mark, after those already read, unless a character is
rejected; and the cursor where the reading stopped. -/
def tokenizeOnto? (done : List Token) (c : Cursor) :
    Option (Except Rejection (List Token) × Cursor) :=
  match h : c.next? with
  | none => none
  | some (.error r, c') => some (.error r, c')
  | some (.ok t, c') =>
    if hend : t.isEnd = true then some (.ok (done ++ [t]), c')
    else
      have := lt_of_next? h (by simpa using hend)
      tokenizeOnto? (done ++ [t]) c'
termination_by c.text.length - c.position

/-- Answers one call. -/
def answer? (c : Cursor) : Scanner.Call → Option (Scanner.Reply × Cursor)
  | .next => c.next?.map fun p => (.next p.1, p.2)
  | .tokenize => (c.tokenizeOnto? []).map fun p => (.tokenize p.1, p.2)
  | .position => some (.position, c)

/-- Answers the calls in order, each with the position afterwards. -/
def session? (c : Cursor) : List Scanner.Call → Option (List (Scanner.Reply × Nat))
  | [] => some []
  | call :: calls => do
    let (reply, c') ← c.answer? call
    let later ← c'.session? calls
    return (reply, c'.position) :: later

/-- A rejection ends the reading. -/
theorem tokenizeOnto?_of_error {c c' : Cursor} {r : Rejection}
    (h : c.next? = some (.error r, c')) (done : List Token) :
    c.tokenizeOnto? done = some (.error r, c') := by
  rw [tokenizeOnto?]
  split <;> simp_all

/-- The end mark ends the reading. -/
theorem tokenizeOnto?_of_end {c c' : Cursor} {t : Token} (h : c.next? = some (.ok t, c'))
    (ht : t.isEnd = true) (done : List Token) :
    c.tokenizeOnto? done = some (.ok (done ++ [t]), c') := by
  rw [tokenizeOnto?]
  split <;> simp_all

/-- After any other token the reading goes on. -/
theorem tokenizeOnto?_of_token {c c' : Cursor} {t : Token} (h : c.next? = some (.ok t, c'))
    (ht : t.isEnd = false) (done : List Token) :
    c.tokenizeOnto? done = c'.tokenizeOnto? (done ++ [t]) := by
  rw [tokenizeOnto?]
  split
  · simp_all
  · simp_all
  · rename_i t₁ c₁ h₁
    rw [h] at h₁
    obtain ⟨htok, rfl⟩ := Prod.mk.inj (Option.some.inj h₁)
    obtain rfl := Except.ok.inj htok
    rw [dif_neg (by simp [ht])]

/-- **All tokens** are read without missing the text, and they are those of the scanner.
Induction on what the scanner hands out. -/
theorem tokenizeOnto?_ofScanner (s : Scanner) (done : List Token) :
    (ofScanner s).tokenizeOnto? done =
      some (s.tokenize.1.map (done ++ ·), ofScanner s.tokenize.2) := by
  induction s using Scanner.next_induction generalizing done with
  | step s ih =>
      have hnext := next?_ofScanner s
      match hn : s.next with
      | (.error r, s') =>
          rw [hn] at hnext
          rw [tokenizeOnto?_of_error hnext, Scanner.tokenize_of_next_error hn]
          rfl
      | (.ok t, s') =>
          rw [hn] at hnext
          cases ht : t.isEnd with
          | true =>
              rw [tokenizeOnto?_of_end hnext ht, Scanner.tokenize_of_next_end hn ht]
              rfl
          | false =>
              rw [tokenizeOnto?_of_token hnext ht, ih t s' hn ht,
                Scanner.tokenize_of_next_token hn ht]
              cases s'.tokenize.1 <;> simp [Except.map]

/-- **Each call** is answered without missing the text, as the scanner answers it. -/
theorem answer?_ofScanner (s : Scanner) (call : Scanner.Call) :
    (ofScanner s).answer? call = some ((s.answer call).1, ofScanner (s.answer call).2) := by
  cases call with
  | next =>
      rw [answer?, next?_ofScanner]
      rfl
  | tokenize =>
      rw [answer?, tokenizeOnto?_ofScanner]
      cases ht : s.tokenize.1 <;> simp [Scanner.answer, ht, Except.map]
  | position => rfl

/-- **Every session** of a cursor that stands where a scanner stands has all its replies and
positions, and they are those of the scanner. -/
theorem session?_ofScanner (s : Scanner) (calls : List Scanner.Call) :
    (ofScanner s).session? calls = some (s.session calls) := by
  induction calls generalizing s with
  | nil => rfl
  | cons call calls ih =>
      simp only [session?, answer?_ofScanner, ih, Option.bind_eq_bind, Option.bind_some]
      rfl

end Cursor

end QueryScan
