import QueryScan.Lexeme

/-!
# Scanners

A scanner walks over a text and hands out its tokens one at a time. It keeps the text, the
number of characters it has passed, and the characters still ahead of it; the last of these
is determined by the first two, and the type says so.

Asked for the next token, a scanner takes the lexeme ahead of it and moves past it. At the
end of the text it answers with the end mark, however often it is asked. In front of a
character that starts no lexeme it answers with a rejection and stays where it is, so the
same rejection is given again. Asked for all tokens, it repeats this until the end mark or
the first rejection; a rejection discards the tokens read before it, but the scanner has
moved past them all the same.

## Main results

* `Scanner.next_of_first?`, `Scanner.next_of_rest_nil`, `Scanner.next_of_rest_cons`: the
  three outcomes of asking for the next token.
* `Scanner.length_rest_lt_of_next`: a token other than the end mark is progress.
* `Scanner.drain_of_error`, `Scanner.drain_of_end`, `Scanner.drain_of_token`: reading all
  tokens is reading the next one and then, if it is neither a rejection nor the end mark,
  all the others.
* `Scanner.nexts_of_error`, `Scanner.nexts_of_end`: once a scanner has met a rejection or
  the end mark, it gives the same answer to every further call.
-/

namespace QueryScan

/-- A character that starts no lexeme, and the number of characters before it. -/
structure Rejection where
  /-- The character at which the scan stopped. -/
  character : Char
  /-- The index of the character, from 0. -/
  position : Nat
  deriving DecidableEq, Repr

/-- A place in a text. -/
structure Scanner where
  /-- The whole text. -/
  text : List Char
  /-- The number of characters passed. -/
  position : Nat
  /-- The characters ahead. -/
  rest : List Char
  /-- The place lies within the text. -/
  position_le : position ≤ text.length
  /-- What is ahead is the text without what has been passed. -/
  rest_eq : rest = text.drop position

namespace Scanner

/-- A scanner at the start of a text. -/
def ofText (text : List Char) : Scanner where
  text := text
  position := 0
  rest := text
  position_le := Nat.zero_le _
  rest_eq := rfl

/-- A scanner at the start of a query. -/
def ofQuery (query : String) : Scanner :=
  ofText query.toList

/-- The same scanner, past the characters `passed` that were next. -/
def advance (s : Scanner) (passed rest : List Char) (h : passed ++ rest = s.rest) : Scanner where
  text := s.text
  position := s.position + passed.length
  rest := rest
  position_le := by
    have hlen : s.rest.length = s.text.length - s.position := by
      rw [s.rest_eq, List.length_drop]
    have := s.position_le
    rw [← h, List.length_append] at hlen
    omega
  rest_eq := by
    rw [← List.drop_drop, ← s.rest_eq, ← h, List.drop_left]

/-! ### One token at a time -/

/-- The next token, or the rejection of the character ahead; and the scanner afterwards. -/
def next (s : Scanner) : Except Rejection Token × Scanner :=
  match h : Lexeme.first? s.rest with
  | some (l, rest) => (.ok l.token, s.advance l.chars rest (Lexeme.chars_append_of_first? h))
  | none =>
    match s.rest with
    | [] => (.ok .endMark, s)
    | c :: _ => (.error ⟨c, s.position⟩, s)

/-- With a lexeme ahead, the next token is the one it makes, and the scanner moves past it. -/
theorem next_of_first? {s : Scanner} {l : Lexeme} {rest : List Char}
    (h : Lexeme.first? s.rest = some (l, rest)) :
    s.next = (.ok l.token, s.advance l.chars rest (Lexeme.chars_append_of_first? h)) := by
  unfold next
  split
  · rename_i l' rest' h'
    rw [h] at h'
    obtain ⟨rfl, rfl⟩ := Prod.mk.inj (Option.some.inj h')
    rfl
  · rename_i h'
    rw [h] at h'
    simp at h'

/-- With nothing ahead, the next token is the end mark, and the scanner stays. -/
theorem next_of_rest_nil {s : Scanner} (h : s.rest = []) : s.next = (.ok .endMark, s) := by
  unfold next
  split
  · rename_i h'
    rw [h] at h'
    simp at h'
  · rw [h]

/-- With a character ahead that starts no lexeme, that character is rejected, and the
scanner stays. -/
theorem next_of_rest_cons {s : Scanner} {c : Char} {cs : List Char} (h : s.rest = c :: cs)
    (hc : classes c = []) : s.next = (.error ⟨c, s.position⟩, s) := by
  have hnone : Lexeme.first? s.rest = none := Lexeme.first?_eq_none_iff.2 (by simp [h, hc])
  unfold next
  split
  · rename_i h'
    rw [hnone] at h'
    simp at h'
  · rw [h]

/-- The three outcomes of asking for the next token. -/
theorem next_cases (s : Scanner) :
    (∃ l rest, ∃ h : Lexeme.first? s.rest = some (l, rest),
      s.next = (.ok l.token, s.advance l.chars rest (Lexeme.chars_append_of_first? h))) ∨
    (s.rest = [] ∧ s.next = (.ok .endMark, s)) ∨
    ∃ c cs, s.rest = c :: cs ∧ classes c = [] ∧ s.next = (.error ⟨c, s.position⟩, s) := by
  by_cases hf : Lexeme.first? s.rest = none
  · by_cases hr : s.rest = []
    · exact .inr (.inl ⟨hr, next_of_rest_nil hr⟩)
    · obtain ⟨c, cs, hr⟩ := List.exists_cons_of_ne_nil hr
      have hc : classes c = [] := Lexeme.first?_eq_none_iff.1 hf c (by simp [hr])
      exact .inr (.inr ⟨c, cs, hr, hc, next_of_rest_cons hr hc⟩)
  · obtain ⟨⟨l, rest⟩, hf⟩ := Option.ne_none_iff_exists'.1 hf
    exact .inl ⟨l, rest, hf, next_of_first? hf⟩

/-- A token other than the end mark is progress: less is ahead afterwards. -/
theorem length_rest_lt_of_next {s s' : Scanner} {t : Token} (h : s.next = (.ok t, s'))
    (ht : t.isEnd = false) : s'.rest.length < s.rest.length := by
  rcases next_cases s with ⟨l, rest, hf, hn⟩ | ⟨-, hn⟩ | ⟨c, cs, -, -, hn⟩
  · rw [h] at hn
    obtain ⟨-, rfl⟩ := Prod.mk.inj hn
    exact Lexeme.length_lt_of_first? hf
  · rw [h] at hn
    obtain ⟨h1, -⟩ := Prod.mk.inj hn
    obtain rfl := Except.ok.inj h1
    simp at ht
  · rw [h] at hn
    simp at hn

/-- A rejection leaves the scanner where it is. -/
theorem eq_of_next_error {s s' : Scanner} {r : Rejection} (h : s.next = (.error r, s')) :
    s' = s := by
  rcases next_cases s with ⟨l, rest, hf, hn⟩ | ⟨-, hn⟩ | ⟨c, cs, -, -, hn⟩
  · rw [h] at hn
    simp at hn
  · rw [h] at hn
    simp at hn
  · rw [h] at hn
    exact (Prod.mk.inj hn).2

/-- The end mark leaves the scanner where it is. -/
theorem eq_of_next_end {s s' : Scanner} {t : Token} (h : s.next = (.ok t, s'))
    (ht : t.isEnd = true) : s' = s := by
  rcases next_cases s with ⟨l, rest, hf, hn⟩ | ⟨-, hn⟩ | ⟨c, cs, -, -, hn⟩
  · rw [h] at hn
    obtain ⟨h1, -⟩ := Prod.mk.inj hn
    obtain rfl := Except.ok.inj h1
    rw [Lexeme.isEnd_token] at ht
    simp at ht
  · rw [h] at hn
    exact (Prod.mk.inj hn).2
  · rw [h] at hn
    simp at hn

/-! ### All tokens at once -/

/-- A token, and the number of characters passed once it was read. -/
structure Reading where
  /-- What was read. -/
  token : Token
  /-- Where the scanner stood afterwards. -/
  position : Nat
  deriving DecidableEq, Repr

/-- What a scanner hands out until it reaches the end or a rejection. -/
structure Drain where
  /-- The tokens, in order, with the end mark if the end was reached. -/
  readings : List Reading
  /-- The rejection, if one was met. -/
  rejection : Option Rejection
  /-- The scanner where it stopped. -/
  scanner : Scanner

/-- Reads until the end or a rejection, adding to the readings already made. -/
def drainOnto (done : Array Reading) (s : Scanner) : Drain :=
  match h : s.next with
  | (.error r, s') => ⟨done.toList, some r, s'⟩
  | (.ok t, s') =>
    if hend : t.isEnd = true then ⟨(done.push ⟨t, s'.position⟩).toList, none, s'⟩
    else
      have := length_rest_lt_of_next h (by simpa using hend)
      drainOnto (done.push ⟨t, s'.position⟩) s'
termination_by s.rest.length

/-- Reads until the end or a rejection. -/
def drain (s : Scanner) : Drain :=
  drainOnto #[] s

/-- All tokens from here to the end mark, unless a character is rejected; and the scanner
where the reading stopped. -/
def tokenize (s : Scanner) : Except Rejection (List Token) × Scanner :=
  let d := s.drain
  match d.rejection with
  | none => (.ok (d.readings.map Reading.token), d.scanner)
  | some r => (.error r, d.scanner)

/-- The readings made before have no effect but to stand before the new ones. -/
theorem drainOnto_eq (done : Array Reading) (s : Scanner) :
    drainOnto done s =
      ⟨done.toList ++ (drain s).readings, (drain s).rejection, (drain s).scanner⟩ := by
  suffices h : ∀ (done before : Array Reading),
      drainOnto (before ++ done) s =
        ⟨before.toList ++ (drainOnto done s).readings, (drainOnto done s).rejection,
          (drainOnto done s).scanner⟩ by
    simpa [drain] using h #[] done
  intro done
  fun_induction drainOnto done s with
  | case1 done s r s' hn =>
    intro before
    rw [drainOnto]
    split
    · simp_all
    · simp_all
  | case2 done s t s' hn hend =>
    intro before
    rw [drainOnto]
    split
    · simp_all
    · simp_all
  | case3 done s t s' hn hend _ ih =>
    intro before
    rw [drainOnto]
    split
    · simp_all
    · rename_i t₁ s₁ hn₁
      rw [hn] at hn₁
      obtain ⟨h1, rfl⟩ := Prod.mk.inj hn₁
      obtain rfl := Except.ok.inj h1
      rw [dif_neg hend, ← ih before]
      simp

/-- A rejection ends the reading. -/
theorem drain_of_error {s s' : Scanner} {r : Rejection} (h : s.next = (.error r, s')) :
    s.drain = ⟨[], some r, s'⟩ := by
  rw [drain, drainOnto]
  split <;> simp_all

/-- The end mark ends the reading. -/
theorem drain_of_end {s s' : Scanner} {t : Token} (h : s.next = (.ok t, s'))
    (ht : t.isEnd = true) : s.drain = ⟨[⟨t, s'.position⟩], none, s'⟩ := by
  rw [drain, drainOnto]
  split <;> simp_all

/-- After any other token the reading goes on. -/
theorem drain_of_token {s s' : Scanner} {t : Token} (h : s.next = (.ok t, s'))
    (ht : t.isEnd = false) :
    s.drain = ⟨⟨t, s'.position⟩ :: s'.drain.readings, s'.drain.rejection, s'.drain.scanner⟩ := by
  rw [drain, drainOnto]
  split
  · simp_all
  · rename_i t₁ s₁ hn₁
    rw [h] at hn₁
    obtain ⟨h1, rfl⟩ := Prod.mk.inj hn₁
    obtain rfl := Except.ok.inj h1
    rw [dif_neg (by simp [ht]), drainOnto_eq]
    simp

/-! ### Sessions -/

/-- What can be asked of a scanner. -/
inductive Call where
  /-- The next token. -/
  | next
  /-- All tokens that are left. -/
  | tokenize
  /-- Nothing but the position. -/
  | position
  deriving DecidableEq, Repr

/-- What a scanner answers. -/
inductive Reply where
  /-- To a call for the next token. -/
  | next (result : Except Rejection Token)
  /-- To a call for all tokens. -/
  | tokenize (result : Except Rejection (List Token))
  /-- To a call for the position, which every reply comes with. -/
  | position

/-- Answers one call. -/
def answer (s : Scanner) : Call → Reply × Scanner
  | .next => (.next s.next.1, s.next.2)
  | .tokenize => (.tokenize s.tokenize.1, s.tokenize.2)
  | .position => (.position, s)

/-- Answers the calls in order, each with the scanner as it is afterwards. -/
def run (s : Scanner) : List Call → List (Reply × Scanner)
  | [] => []
  | call :: calls => s.answer call :: (s.answer call).2.run calls

/-- The results of asking `n` times for the next token. -/
def nexts (s : Scanner) : Nat → List (Except Rejection Token)
  | 0 => []
  | n + 1 => s.next.1 :: s.next.2.nexts n

/-- A scanner that stays where it is gives the same answer to every call. -/
theorem nexts_of_next_eq {s : Scanner} {result : Except Rejection Token}
    (h : s.next = (result, s)) (n : Nat) : s.nexts n = List.replicate n result := by
  induction n with
  | zero => rfl
  | succ n ih => rw [nexts, h, ih, List.replicate_succ]

/-- A rejected character is rejected by every further call. -/
theorem nexts_of_error {s s' : Scanner} {r : Rejection} (h : s.next = (.error r, s'))
    (n : Nat) : s.nexts n = List.replicate n (.error r) := by
  obtain rfl := eq_of_next_error h
  exact nexts_of_next_eq h n

/-- The end mark is given to every further call. -/
theorem nexts_of_end {s s' : Scanner} {t : Token} (h : s.next = (.ok t, s'))
    (ht : t.isEnd = true) (n : Nat) : s.nexts n = List.replicate n (.ok t) := by
  obtain rfl := eq_of_next_end h ht
  exact nexts_of_next_eq h n

end Scanner

end QueryScan
