import QueryScan.Proofs.Tokenization

/-!
# The Stream of a Scanner

All that a scanner ever hands out is a finite stream of tokens and then, at every further
call, one and the same answer: the end mark or a rejection. `Scanner.stream` and
`Scanner.verdict` are the two parts. Every question about calls that go on after a rejection
or past the end is a question about how many calls there are more than tokens.

The stream is read off the answers to single calls, the verdict off the outcome of a whole
scan; that the two belong together is what this module shows.

## Main results

* `Scanner.nexts_eq_stream`: any number of calls for the next token gives the stream, as far
  as they reach, and then the verdict, as often as there are calls left.
* `Scanner.tokenize_eq_stream`: a scan gives the stream and the end mark, or the rejection.
-/

namespace QueryScan

namespace Scanner

/-- The token in an answer, if it is one that moves the scanner on. -/
def token? : Except Rejection Token → Option Token
  | .ok t => if t.isEnd then none else some t
  | .error _ => none

/-- The **stream** of a scanner: the tokens, except the end mark, that it hands out one by
one. Each of them takes a character at least, so as many calls as there are characters ahead
bring out all of them. -/
def stream (s : Scanner) : List Token :=
  (s.nexts s.rest.length).filterMap token?

/-- The **verdict** of a scanner: the end mark or the rejection that a scan ends with. -/
def verdict (s : Scanner) : Except Rejection Token :=
  s.tokenize.1.map fun _ => .endMark

/-- A scanner hands out a token and moves on, or else it stays and its answer is all that
there is. -/
theorem next_advances_or_stays (s : Scanner) :
    (∃ t s', s.next = (.ok t, s') ∧ t.isEnd = false) ∨
      s.next = (s.verdict, s) ∧ token? s.verdict = none ∧
        s.tokenize.1 = s.verdict.map fun t => [t] := by
  rcases s.next_cases with ⟨l, rest, hf, hn⟩ | ⟨-, hn⟩ | ⟨c, cs, -, -, hn⟩
  · exact Or.inl ⟨_, _, hn, Lexeme.isEnd_token l⟩
  · refine Or.inr ?_
    rw [verdict, tokenize_of_next_end hn Token.isEnd_endMark]
    exact ⟨hn, rfl, rfl⟩
  · refine Or.inr ?_
    rw [verdict, tokenize_of_next_error hn]
    exact ⟨hn, rfl, rfl⟩

/-- The token that moves a scanner on stands before the answers that come after it. -/
theorem nexts_succ_of_next {s s' : Scanner} {result : Except Rejection Token}
    (h : s.next = (result, s')) (n : Nat) : s.nexts (n + 1) = result :: s'.nexts n := by
  rw [nexts, h]

/-- The verdict does not change while tokens are handed out. -/
theorem verdict_of_next {s s' : Scanner} {t : Token} (h : s.next = (.ok t, s'))
    (ht : t.isEnd = false) : s.verdict = s'.verdict := by
  rw [verdict, verdict, tokenize_of_next_token h ht]
  cases s'.tokenize.1 <;> rfl

/-- A scanner that stays where it is has nothing to hand out. -/
theorem filterMap_nexts_of_stays {s : Scanner} {result : Except Rejection Token}
    (h : s.next = (result, s)) (hr : token? result = none) (n : Nat) :
    (s.nexts n).filterMap token? = [] := by
  rw [nexts_of_next_eq h, List.filterMap_replicate_of_none hr]

/-- More calls than there are characters ahead bring out no more tokens. -/
theorem filterMap_nexts {s : Scanner} {n : Nat} (hn : s.rest.length ≤ n) :
    (s.nexts n).filterMap token? = s.stream := by
  induction s using next_induction generalizing n with
  | step s ih =>
      rcases s.next_advances_or_stays with ⟨t, s', h, ht⟩ | ⟨h, hv, -⟩
      · have hlt := length_rest_lt_of_next h ht
        obtain ⟨m, hm⟩ : ∃ m, s.rest.length = m + 1 := ⟨s.rest.length - 1, by omega⟩
        obtain ⟨k, rfl⟩ : ∃ k, n = k + 1 := ⟨n - 1, by omega⟩
        rw [stream, hm, nexts_succ_of_next h, nexts_succ_of_next h, List.filterMap_cons,
          List.filterMap_cons, ih t s' h ht (by omega), ih t s' h ht (by omega)]
      · rw [stream, filterMap_nexts_of_stays h hv, filterMap_nexts_of_stays h hv]

/-- The token that moves a scanner on is the first of its stream. -/
theorem stream_of_next {s s' : Scanner} {t : Token} (h : s.next = (.ok t, s'))
    (ht : t.isEnd = false) : s.stream = t :: s'.stream := by
  have hlt := length_rest_lt_of_next h ht
  obtain ⟨m, hm⟩ : ∃ m, s.rest.length = m + 1 := ⟨s.rest.length - 1, by omega⟩
  have htoken : token? (.ok t) = some t := by rw [token?, ht]; rfl
  rw [stream, hm, nexts_succ_of_next h, List.filterMap_cons, htoken, filterMap_nexts (by omega)]

/-- A scanner that stays where it is has an empty stream. -/
theorem stream_of_stays {s : Scanner} {result : Except Rejection Token}
    (h : s.next = (result, s)) (hr : token? result = none) : s.stream = [] :=
  filterMap_nexts_of_stays h hr _

/-- The end mark is not in the stream. -/
theorem isEnd_of_mem_stream {s : Scanner} {t : Token} (h : t ∈ s.stream) : t.isEnd = false := by
  obtain ⟨result, -, hresult⟩ := List.mem_filterMap.mp h
  cases result with
  | error r => exact absurd hresult (by simp [token?])
  | ok t' =>
      by_cases ht : t'.isEnd = true
      · exact absurd hresult (by simp [token?, ht])
      · rw [token?, if_neg ht] at hresult
        obtain rfl := Option.some.inj hresult
        simpa using ht

/-- **Single calls**: the stream, as far as they reach, and then the verdict, as often as
there are calls left. -/
theorem nexts_eq_stream (s : Scanner) (n : Nat) :
    s.nexts n = (s.stream.take n).map .ok ++
      List.replicate (n - s.stream.length) s.verdict := by
  induction n generalizing s with
  | zero => simp [nexts]
  | succ n ih =>
      rcases s.next_advances_or_stays with ⟨t, s', h, ht⟩ | ⟨h, hv, -⟩
      · rw [nexts_succ_of_next h, ih s', stream_of_next h ht, verdict_of_next h ht]
        simp
      · rw [nexts_of_next_eq h, stream_of_stays h hv]
        simp

/-- **The whole scan**: the stream and the end mark, unless the verdict is a rejection. -/
theorem tokenize_eq_stream (s : Scanner) :
    s.tokenize.1 = s.verdict.map fun t => s.stream ++ [t] := by
  induction s using next_induction with
  | step s ih =>
      rcases s.next_advances_or_stays with ⟨t, s', h, ht⟩ | ⟨h, hv, htok⟩
      · rw [tokenize_of_next_token h ht, ih t s' h ht, stream_of_next h ht, verdict_of_next h ht]
        cases s'.verdict <;> rfl
      · rw [htok, stream_of_stays h hv]
        rfl

end Scanner

end QueryScan
