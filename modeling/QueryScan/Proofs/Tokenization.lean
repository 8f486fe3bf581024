import QueryScan.Proofs.MaximalMunch
import QueryScan.Scanner

/-!
# Tokenization

A scanner hands out the tokens of the lexemes that make up the text ahead of it. This
module carries `Munch`, which speaks of texts, over to scanners: one call for the next
token is one step of the munch (`Scanner.next_of_munch`), any number of them is that many
steps (`Scanner.after_nexts_of_munch`), and reading all tokens is the munch up to its end
(`Scanner.drain_of_munch`, `Scanner.tokenize_of_munch`).

`Scanner.after s calls` is the scanner once it has answered some calls, and
`Scanner.session s calls` is what the caller has seen by then. Nothing but the calls moves a
scanner, so its states are those that `after` reaches.

## Main results

* `Scanner.tokenize_of_munch`: a scan fails exactly if the munch stops in front of a
  character, and at that character.
* `Scanner.tokenize_ofQuery_eq_ok_iff`: **maximal munch** — a query scans to some tokens
  exactly if it has a segmentation into lexemes that make those tokens. The segmentation is
  unique, and the calls for the next token walk over it.
-/

namespace QueryScan

open Lexeme

namespace Scanner

/-- Induction over what a scanner hands out: a property of the scanners that stand after the
next token, unless it is the end mark, carries over to the scanner before it. -/
@[elab_as_elim] theorem next_induction {motive : Scanner → Prop} (s : Scanner)
    (step : ∀ s, (∀ t s', s.next = (.ok t, s') → t.isEnd = false → motive s') → motive s) :
    motive s := by
  induction hn : s.rest.length using Nat.strongRecOn generalizing s with
  | ind n ih =>
      refine step s ?_
      intro t s' h ht
      exact ih s'.rest.length (hn ▸ length_rest_lt_of_next h ht) s' rfl

/-! ### Reading all tokens, one token at a time -/

/-- A rejection is the outcome of the scan. -/
theorem tokenize_of_next_error {s s' : Scanner} {r : Rejection} (h : s.next = (.error r, s')) :
    s.tokenize = (.error r, s') := by
  rw [tokenize, drain_of_error h]

/-- At the end mark the scan is over. -/
theorem tokenize_of_next_end {s s' : Scanner} {t : Token} (h : s.next = (.ok t, s'))
    (ht : t.isEnd = true) : s.tokenize = (.ok [t], s') := by
  rw [tokenize, drain_of_end h ht]
  rfl

/-- Any other token stands before the outcome of the scan from there. -/
theorem tokenize_of_next_token {s s' : Scanner} {t : Token} (h : s.next = (.ok t, s'))
    (ht : t.isEnd = false) :
    s.tokenize = (s'.tokenize.1.map (t :: ·), s'.tokenize.2) := by
  rw [tokenize, tokenize, drain_of_token h ht]
  cases s'.drain.rejection <;> simp [Except.map]

/-! ### Sequences of calls -/

/-- The scanner once it has answered some calls, in order. -/
def after (s : Scanner) (calls : List Call) : Scanner :=
  calls.foldl (fun s call => (s.answer call).2) s

/-- No call moves nothing. -/
@[simp] theorem after_nil (s : Scanner) : s.after [] = s := rfl

/-- The first call is answered first. -/
@[simp] theorem after_cons (s : Scanner) (call : Call) (calls : List Call) :
    s.after (call :: calls) = (s.answer call).2.after calls := rfl

/-- What a caller sees of some calls: the replies, and the position after each. -/
def session (s : Scanner) (calls : List Call) : List (Reply × Nat) :=
  (s.run calls).map fun p => (p.1, p.2.position)

/-- Nothing is seen without calls. -/
@[simp] theorem session_nil (s : Scanner) : s.session [] = [] := rfl

/-- The first call is answered, and the others by the scanner as it is then. -/
@[simp] theorem session_cons (s : Scanner) (call : Call) (calls : List Call) :
    s.session (call :: calls) =
      ((s.answer call).1, (s.answer call).2.position) :: (s.answer call).2.session calls := rfl

/-! ### Scanning a munched text -/

/-- Asking for the next token is one step of the munch. -/
theorem next_of_munch {s : Scanner} {l : Lexeme} {ls : List Lexeme} {rest : List Char}
    (h : Munch s.rest (l :: ls) rest) :
    s.next.1 = .ok l.token ∧ s.next.2.text = s.text ∧
      s.next.2.position = s.position + l.length ∧ Munch s.next.2.rest ls rest := by
  obtain ⟨cs, hf, hm⟩ := h.cons_inv
  rw [next_of_first? hf]
  exact ⟨rfl, rfl, rfl, hm⟩

/-- Asking so many times for the next token is so many steps of the munch. -/
theorem after_nexts_of_munch {s : Scanner} {ls : List Lexeme} {rest : List Char}
    (h : Munch s.rest ls rest) {n : Nat} (hn : n ≤ ls.length) :
    (s.after (List.replicate n .next)).position = s.position + (joined (ls.take n)).length ∧
      Munch (s.after (List.replicate n .next)).rest (ls.drop n) rest := by
  induction n generalizing s ls with
  | zero => exact ⟨by simp, by simpa using h⟩
  | succ n ih =>
      cases ls with
      | nil => exact absurd hn (by simp)
      | cons l ls =>
          obtain ⟨-, -, hp, hm⟩ := next_of_munch h
          obtain ⟨hp', hm'⟩ := ih hm (by simpa using hn)
          refine ⟨?_, hm'⟩
          rw [List.replicate_succ, after_cons, List.take_succ_cons, length_joined_cons]
          exact hp'.trans (by rw [hp, Nat.add_assoc])

/-- The rejection that a scan meets in front of the rest of a text: its first character,
if there is one, at the given position. -/
def stop (position : Nat) (rest : List Char) : Option Rejection :=
  rest.head?.map fun c => ⟨c, position⟩

/-- Reading to the end or to a rejection is the munch up to where no lexeme is ahead. -/
theorem drain_of_munch {s : Scanner} {ls : List Lexeme} {rest : List Char}
    (h : Munch s.rest ls rest) (hrest : first? rest = none) :
    s.drain.readings.map Reading.token =
        ls.map token ++ (if rest = [] then [.endMark] else []) ∧
      s.drain.rejection = stop (s.position + (joined ls).length) rest ∧
      s.drain.scanner.text = s.text ∧
      s.drain.scanner.position = s.position + (joined ls).length ∧
      s.drain.scanner.rest = rest := by
  induction ls generalizing s with
  | nil =>
      obtain rfl := h.nil_inv
      cases hr : s.rest with
      | nil =>
          have hn := next_of_rest_nil hr
          rw [drain_of_end hn Token.isEnd_endMark]
          simp [stop, hr]
      | cons c cs =>
          have hc : classes c = [] := first?_eq_none_iff.mp hrest c (by simp [hr])
          rw [drain_of_error (next_of_rest_cons hr hc)]
          simp [stop, hr]
  | cons l ls ih =>
      obtain ⟨ht, htext, hp, hm⟩ := next_of_munch h
      obtain ⟨h1, h2, h3, h4, h5⟩ := ih hm
      have hn : s.next = (.ok l.token, s.next.2) := Prod.ext ht rfl
      rw [drain_of_token hn (isEnd_token l)]
      rw [hp, Nat.add_assoc, ← length_joined_cons] at h2 h4
      exact ⟨by simp [h1], h2, h3.trans htext, h4, h5⟩

/-- **The outcome of a scan**: the tokens of the lexemes and the end mark if the munch
reaches the end, and else the rejection of the character in front of which it stops. Either
way the scanner stands where the munch has stopped. -/
theorem tokenize_of_munch {s : Scanner} {ls : List Lexeme} {rest : List Char}
    (h : Munch s.rest ls rest) (hrest : first? rest = none) :
    s.tokenize.1 = (match stop (s.position + (joined ls).length) rest with
      | none => .ok (ls.map token ++ [.endMark])
      | some r => .error r) ∧
    s.tokenize.2.text = s.text ∧
    s.tokenize.2.position = s.position + (joined ls).length ∧
    s.tokenize.2.rest = rest := by
  obtain ⟨h1, h2, h3, h4, h5⟩ := drain_of_munch h hrest
  rw [tokenize]
  cases rest with
  | nil =>
      simp only [h2, stop, List.head?_nil, Option.map_none]
      exact ⟨by simp [h1], h3, h4, h5⟩
  | cons c cs =>
      simp only [h2, stop, List.head?_cons, Option.map_some]
      exact ⟨trivial, h3, h4, h5⟩

/-- A scan that reaches the end yields the tokens of the lexemes and the end mark. -/
theorem tokenize_eq_ok_of_munch {s : Scanner} {ls : List Lexeme} (h : Munch s.rest ls []) :
    s.tokenize.1 = .ok (ls.map token ++ [.endMark]) :=
  (tokenize_of_munch h first?_nil).1

/-- A scan that stops in front of a character rejects it. -/
theorem tokenize_eq_error_of_munch {s : Scanner} {ls : List Lexeme} {c : Char}
    {cs : List Char} (h : Munch s.rest ls (c :: cs)) (hc : first? (c :: cs) = none) :
    s.tokenize.1 = .error ⟨c, s.position + (joined ls).length⟩ :=
  (tokenize_of_munch h hc).1

/-- In a query the rejected character is at the index at which the lexemes end. -/
theorem tokenize_ofQuery_eq_error_of_munch {query : String} {ls : List Lexeme} {c : Char}
    {cs : List Char} (h : Munch query.toList ls (c :: cs)) (hc : first? (c :: cs) = none) :
    (ofQuery query).tokenize.1 = .error ⟨c, (joined ls).length⟩ := by
  have hm : Munch (ofQuery query).rest ls (c :: cs) := h
  have hpos : (ofQuery query).position = 0 := rfl
  rw [tokenize_eq_error_of_munch hm hc, hpos, Nat.zero_add]

/-- A scan succeeds exactly on a text that is munched whole. -/
theorem tokenize_eq_ok_iff_munch {s : Scanner} {ts : List Token} :
    s.tokenize.1 = .ok ts ↔
      ∃ ls, Munch s.rest ls [] ∧ ts = ls.map token ++ [.endMark] := by
  constructor
  · intro h
    obtain ⟨ls, rest, hm, hrest⟩ := exists_munch s.rest
    cases rest with
    | nil =>
        rw [tokenize_eq_ok_of_munch hm] at h
        exact ⟨ls, hm, (Except.ok.inj h).symm⟩
    | cons c cs =>
        rw [tokenize_eq_error_of_munch hm hrest] at h
        exact absurd h (by simp)
  · rintro ⟨ls, hm, rfl⟩
    exact tokenize_eq_ok_of_munch hm

/-! ### Maximal munch -/

/-- A word makes the token of its upper case, which is a keyword if the table has it. -/
theorem token_word (cs : List Char) :
    token ⟨.letter, cs⟩ =
      ⟨if String.ofList (upperCase cs) ∈ keywords then .keyword else .identifier,
        String.ofList (upperCase cs)⟩ := by
  simp only [token, wordToken, isKeyword, List.contains_iff_mem]

/-- **Maximal munch.** A query scans to a list of tokens exactly if its characters have a
segmentation into lexemes that make those tokens, followed by the end mark. A word makes the
token of its upper case, which is a keyword exactly if it stands in the table; any other lexeme
makes a token of its own class, with its characters as they are. A query has at
most one segmentation; the calls for the next token hand out its lexemes one by one, and
the position after each call counts the characters handed out so far. -/
theorem tokenize_ofQuery_eq_ok_iff (query : String) :
    (∀ ts, (ofQuery query).tokenize.1 = .ok ts ↔
      ∃ ls, Segmentation query.toList ls ∧ ts = ls.map token ++ [.endMark]) ∧
    (∀ cs, token ⟨.letter, cs⟩ =
      ⟨if String.ofList (upperCase cs) ∈ keywords then .keyword else .identifier,
        String.ofList (upperCase cs)⟩) ∧
    (∀ cs, token ⟨.digit, cs⟩ = ⟨.literal, String.ofList cs⟩) ∧
    (∀ cs, token ⟨.operator, cs⟩ = ⟨.operator, String.ofList cs⟩) ∧
    (∀ cs, token ⟨.punctuation, cs⟩ = ⟨.punctuation, String.ofList cs⟩) ∧
    (∀ ls ls', Segmentation query.toList ls → Segmentation query.toList ls' → ls = ls') ∧
    (∀ ls, Segmentation query.toList ls → ∀ i l, ls[i]? = some l →
      ((ofQuery query).after (List.replicate i .next)).next.1 = .ok l.token ∧
      ((ofQuery query).after (List.replicate (i + 1) .next)).position =
        (joined (ls.take (i + 1))).length) := by
  have hrest : (ofQuery query).rest = query.toList := rfl
  have hpos : (ofQuery query).position = 0 := rfl
  refine ⟨?_, token_word, fun _ => rfl, fun _ => rfl, fun _ => rfl, fun ls ls' h h' => h.unique h',
    ?_⟩
  · intro ts
    simp only [tokenize_eq_ok_iff_munch, hrest, segmentation_iff_munch]
  · intro ls h i l hl
    have hm : Munch (ofQuery query).rest ls [] := segmentation_iff_munch.mp h
    obtain ⟨hi, rfl⟩ := List.getElem?_eq_some_iff.mp hl
    obtain ⟨-, hi'⟩ := after_nexts_of_munch hm (Nat.le_of_lt hi)
    obtain ⟨hp, -⟩ := after_nexts_of_munch hm (Nat.succ_le_of_lt hi)
    rw [List.drop_eq_getElem_cons hi] at hi'
    refine ⟨(next_of_munch hi').1, ?_⟩
    rw [hp, hpos, Nat.zero_add]

end Scanner

end QueryScan
