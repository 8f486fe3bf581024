import QueryScan.Proofs.Cursor
import QueryScan.Proofs.TokenText

/-!
# Restarting a Scanner

A scanner has no memory but its place: whatever calls have been made of it, with rejections
in between, it goes on like a fresh scanner of the text ahead, and only positions tell the
two apart, by the number of characters passed. Two scanners with the same characters ahead give
the same next token and have the same characters ahead again; what holds of one call for the next
token holds of any calls (`Scanner.Lockstep`).

A scanner that has given the end mark or a rejection has nothing else to give: it is asked
in vain for ever after.

## Main results

* `Scanner.Lockstep.session`: scanners that are kept in lockstep show the same, positions aside.
* `Scanner.session_eq_shift`: what is seen of a scanner is what is seen of a fresh scanner of
  the text ahead, with positions counted from where the scanner stands.
* `Scanner.tokenize_after_nexts`: tokens handed out one by one are missing from those
  handed out together, and nothing else changes.
* `Scanner.session_of_settled`: what is seen of a scanner that has met the end or a rejection.
* `Scanner.resumable_after`: all of this holds of a scanner of a query after any calls.
-/

namespace QueryScan

open Lexeme

/-- The same rejection, met so many characters later. -/
def Rejection.shift (n : Nat) (r : Rejection) : Rejection :=
  ⟨r.character, n + r.position⟩

/-- No characters later, it is the same rejection. -/
@[simp] theorem Rejection.shift_zero (r : Rejection) : r.shift 0 = r := by
  rw [shift, Nat.zero_add]

namespace Scanner

/-- The same reply, given so many characters later: only rejections tell positions. -/
def Reply.shift (n : Nat) : Reply → Reply
  | next result => next (result.mapError (Rejection.shift n))
  | tokenize result => tokenize (result.mapError (Rejection.shift n))
  | position => position

/-- No characters later, it is the same reply. -/
@[simp] theorem Reply.shift_zero (reply : Reply) : reply.shift 0 = reply := by
  have hresult : ∀ {α : Type} (result : Except Rejection α),
      result.mapError (Rejection.shift 0) = result := by
    rintro α (r | a)
    · exact congrArg Except.error r.shift_zero
    · rfl
  cases reply with
  | next result => rw [shift, hresult]
  | tokenize result => rw [shift, hresult]
  | position => rfl

/-! ### Lockstep -/

/-- A relation between scanners is kept **in lockstep** if related scanners give the same answer
to a call for the next token, positions aside, and are related again afterwards. The first is `n`
characters further on. -/
structure Lockstep (n : Nat) (R : Scanner → Scanner → Prop) : Prop where
  /-- The positions are that far apart. -/
  position_eq : ∀ {s f}, R s f → s.position = n + f.position
  /-- The next token is the same, and the relation is kept. -/
  next : ∀ {s f}, R s f →
    s.next.1 = f.next.1.mapError (Rejection.shift n) ∧ R s.next.2 f.next.2

namespace Lockstep

variable {n : Nat} {R : Scanner → Scanner → Prop}

/-- Asking both for all tokens keeps the lockstep, with the same result. Induction on what
the first hands out. -/
theorem tokenize (hR : Lockstep n R) {s f : Scanner} (h : R s f) :
    s.tokenize.1 = f.tokenize.1.mapError (Rejection.shift n) ∧ R s.tokenize.2 f.tokenize.2 := by
  induction s using next_induction generalizing f with
  | step s ih =>
      obtain ⟨hresult, hnext⟩ := hR.next h
      match hf : f.next with
      | (.error r, f') =>
          rw [hf] at hresult hnext
          rw [tokenize_of_next_error hf, tokenize_of_next_error (Prod.ext hresult rfl)]
          exact ⟨rfl, hnext⟩
      | (.ok t, f') =>
          rw [hf] at hresult hnext
          have hs : s.next = (.ok t, s.next.2) := Prod.ext hresult rfl
          cases ht : t.isEnd with
          | true =>
              rw [tokenize_of_next_end hf ht, tokenize_of_next_end hs ht]
              exact ⟨rfl, hnext⟩
          | false =>
              obtain ⟨hresult', htokenize⟩ := ih t s.next.2 hs ht hnext
              rw [tokenize_of_next_token hf ht, tokenize_of_next_token hs ht, hresult']
              refine ⟨?_, htokenize⟩
              cases f'.tokenize.1 <;> rfl

/-- Making both the same call keeps the lockstep, with the same reply. -/
theorem answer (hR : Lockstep n R) {s f : Scanner} (h : R s f) (call : Call) :
    (s.answer call).1 = (f.answer call).1.shift n ∧ R (s.answer call).2 (f.answer call).2 := by
  cases call with
  | next => exact ⟨congrArg Reply.next (hR.next h).1, (hR.next h).2⟩
  | tokenize => exact ⟨congrArg Reply.tokenize (hR.tokenize h).1, (hR.tokenize h).2⟩
  | position => exact ⟨rfl, h⟩

/-- Making both the same calls shows the same, with positions that far apart. -/
theorem session (hR : Lockstep n R) {s f : Scanner} (h : R s f) (calls : List Call) :
    s.session calls = (f.session calls).map fun p => (p.1.shift n, n + p.2) := by
  induction calls generalizing s f with
  | nil => rfl
  | cons call calls ih =>
      obtain ⟨hreply, hnext⟩ := hR.answer h call
      rw [session_cons, session_cons, List.map_cons, ih hnext, hreply, hR.position_eq hnext]

/-- Scanners in lockstep at the same position show the same. -/
theorem session_eq (hR : Lockstep 0 R) {s f : Scanner} (h : R s f) (calls : List Call) :
    s.session calls = f.session calls := by
  rw [hR.session h]
  simp

/-- Scanners in lockstep at the same position give the same answers to calls for the next token. -/
theorem nexts_eq (hR : Lockstep 0 R) {s f : Scanner} (h : R s f) (n : Nat) :
    s.nexts n = f.nexts n := by
  induction n generalizing s f with
  | zero => rfl
  | succ n ih =>
      obtain ⟨hreply, hnext⟩ := hR.answer h .next
      rw [Reply.shift_zero] at hreply
      rw [nexts, nexts, Reply.next.inj hreply]
      exact congrArg (f.next.1 :: ·) (ih hnext)

end Lockstep

/-! ### A scanner and a fresh one -/

/-- `Trails n s f`: the scanners `s` and `f` have the same characters ahead, and `s` has passed
`n` characters more. -/
def Trails (n : Nat) (s f : Scanner) : Prop :=
  s.rest = f.rest ∧ s.position = n + f.position

/-- A scanner trails the fresh scanner of what is ahead of it. -/
theorem trails_ofText (s : Scanner) : Trails s.position s (ofText s.rest) :=
  ⟨rfl, rfl⟩

/-- Scanners with the same characters ahead are kept in lockstep. -/
theorem lockstep_trails (n : Nat) : Lockstep n (Trails n) where
  position_eq h := h.2
  next := by
    rintro s f ⟨hrest, hpos⟩
    rcases s.next_cases with ⟨l, rest, hf, hn⟩ | ⟨hr, hn⟩ | ⟨c, cs, hr, hc, hn⟩
    · rw [hn, next_of_first? (hrest ▸ hf)]
      refine ⟨rfl, rfl, ?_⟩
      simp only [advance, hpos, Nat.add_assoc]
    · rw [hn, next_of_rest_nil (hrest ▸ hr)]
      exact ⟨rfl, hrest, hpos⟩
    · rw [hn, next_of_rest_cons (hrest ▸ hr) hc, hpos]
      exact ⟨rfl, hrest, hpos⟩

/-- **A scanner has no memory but its place**: what is seen of it is what is seen of a fresh
scanner of the text ahead, with positions counted from where it stands. -/
theorem session_eq_shift (s : Scanner) (calls : List Call) :
    s.session calls =
      ((ofText s.rest).session calls).map fun p => (p.1.shift s.position, s.position + p.2) :=
  (lockstep_trails s.position).session s.trails_ofText calls

/-! ### What a call keeps -/

/-- No call changes the text or moves backwards. -/
theorem text_answer (s : Scanner) (call : Call) :
    (s.answer call).2.text = s.text ∧ s.position ≤ (s.answer call).2.position := by
  cases call with
  | next =>
      change s.next.2.text = s.text ∧ s.position ≤ s.next.2.position
      rcases s.next_cases with ⟨l, rest, hf, hn⟩ | ⟨-, hn⟩ | ⟨c, cs, -, -, hn⟩
      · rw [hn]
        exact ⟨rfl, Nat.le_add_right _ _⟩
      · rw [hn]
        exact ⟨rfl, Nat.le_refl _⟩
      · rw [hn]
        exact ⟨rfl, Nat.le_refl _⟩
  | tokenize =>
      change s.tokenize.2.text = s.text ∧ s.position ≤ s.tokenize.2.position
      obtain ⟨ls, rest, hm, hrest⟩ := exists_munch s.rest
      obtain ⟨-, htext, hpos, -⟩ := tokenize_of_munch hm hrest
      exact ⟨htext, by omega⟩
  | position => exact ⟨rfl, Nat.le_refl _⟩

/-- No calls change the text. -/
theorem text_after (s : Scanner) (calls : List Call) : (s.after calls).text = s.text := by
  induction calls generalizing s with
  | nil => rfl
  | cons call calls ih => rw [after_cons, ih, (s.text_answer call).1]

/-- A token other than the end mark moves the scanner past some characters, and it has a
text. -/
theorem progress_of_next {s s' : Scanner} {t : Token} (h : s.next = (.ok t, s'))
    (ht : t.isEnd = false) : s.position < s'.position ∧ t.text ≠ "" := by
  rcases s.next_cases with ⟨l, rest, hf, hn⟩ | ⟨-, hn⟩ | ⟨c, cs, -, -, hn⟩
  · rw [h] at hn
    obtain ⟨htok, rfl⟩ := Prod.mk.inj hn
    obtain rfl := Except.ok.inj htok
    have hw := wellFormed_of_first? hf
    have hlen := List.length_pos_iff.mpr hw.chars_ne_nil
    exact ⟨Nat.lt_add_of_pos_right hlen, hw.token_text_ne_empty⟩
  · rw [h] at hn
    obtain rfl := Except.ok.inj (Prod.mk.inj hn).1
    exact absurd ht (by simp)
  · rw [h] at hn
    exact absurd (Prod.mk.inj hn).1 (by simp)

/-- Tokens handed out one by one are missing from those handed out together, and nothing
else changes. -/
theorem tokenize_after_nexts {s : Scanner} {n : Nat}
    (h : ∀ result ∈ s.nexts n, ∃ t, result = .ok t ∧ t.isEnd = false) :
    (s.after (List.replicate n .next)).tokenize.1 = s.tokenize.1.map (List.drop n) := by
  induction n generalizing s with
  | zero =>
      rw [List.replicate_zero, after_nil]
      cases s.tokenize.1 <;> rfl
  | succ n ih =>
      obtain ⟨t, htok, ht⟩ := h s.next.1 (by simp [nexts])
      have hs : s.next = (.ok t, s.next.2) := Prod.ext htok rfl
      have hrest : ∀ result ∈ s.next.2.nexts n, ∃ t, result = .ok t ∧ t.isEnd = false := by
        intro result hmem
        exact h result (by simp [nexts, hmem])
      rw [tokenize_of_next_token hs ht, List.replicate_succ, after_cons]
      refine (ih hrest).trans ?_
      cases s.next.2.tokenize.1 <;> rfl

/-! ### Scanners with nothing else to give -/

/-- The reply of a scanner whose next token is the given result, now and ever after. -/
def Call.settled (result : Except Rejection Token) : Call → Reply
  | next => .next result
  | tokenize => .tokenize (result.map fun t => [t])
  | position => .position

/-- A scanner that answers with the end mark or a rejection and stays where it is does so for
ever after. -/
theorem session_of_settled {s : Scanner} {result : Except Rejection Token}
    (h : s.next = (result, s)) (hend : ∀ t, result = .ok t → t.isEnd = true)
    (calls : List Call) :
    s.session calls = calls.map fun call => (call.settled result, s.position) := by
  have htokenize : s.tokenize = (result.map fun t => [t], s) := by
    cases result with
    | error r => exact tokenize_of_next_error h
    | ok t => exact tokenize_of_next_end h (hend t rfl)
  have hanswer : ∀ call, s.answer call = (call.settled result, s) := by
    intro call
    cases call with
    | next => rw [answer.eq_1, h]; rfl
    | tokenize => rw [answer.eq_2, htokenize]; rfl
    | position => rfl
  induction calls with
  | nil => rfl
  | cons call calls ih => rw [session_cons, hanswer, ih, List.map_cons]

/-- The reply has the end mark, which is the last token. -/
def Reply.reachesEnd : Reply → Bool
  | next (.ok t) => t.isEnd
  | tokenize (.ok _) => true
  | _ => false

/-- The rejection that the reply tells of. -/
def Reply.rejection? : Reply → Option Rejection
  | next (.error r) => some r
  | tokenize (.error r) => some r
  | _ => none

/-- A scanner that stands at the end of its text has passed all of it. -/
theorem position_of_rest_nil {s : Scanner} (h : s.rest = []) : s.position = s.text.length := by
  rw [s.rest_eq, List.drop_eq_nil_iff] at h
  exact Nat.le_antisymm s.position_le h

/-- The two outcomes of a scan: it stands at the end of the text, or in front of the character
that it rejects. -/
theorem tokenize_cases (s : Scanner) :
    (∃ ts, s.tokenize.1 = .ok ts ∧ s.tokenize.2.rest = []) ∨
      ∃ c cs, s.tokenize.2.rest = c :: cs ∧ classes c = [] ∧
        s.tokenize.1 = .error ⟨c, s.tokenize.2.position⟩ := by
  obtain ⟨ls, rest, hm, hrest⟩ := exists_munch s.rest
  obtain ⟨-, -, hpos, hstop⟩ := tokenize_of_munch hm hrest
  cases rest with
  | nil => exact Or.inl ⟨_, tokenize_eq_ok_of_munch hm, hstop⟩
  | cons c cs =>
      refine Or.inr ⟨c, cs, hstop, first?_eq_none_iff.mp hrest c rfl, ?_⟩
      rw [tokenize_eq_error_of_munch hm hrest, hpos]

/-- A reply with the end mark leaves the scanner at the end of its text. -/
theorem rest_eq_nil_of_reachesEnd {s : Scanner} {call : Call}
    (h : (s.answer call).1.reachesEnd = true) : (s.answer call).2.rest = [] := by
  cases call with
  | next =>
      change (Reply.next s.next.1).reachesEnd = true at h
      change s.next.2.rest = []
      rcases s.next_cases with ⟨l, rest, hf, hn⟩ | ⟨hr, hn⟩ | ⟨c, cs, -, -, hn⟩
      · rw [hn] at h
        exact absurd h (by simp [Reply.reachesEnd, isEnd_token])
      · rw [hn]
        exact hr
      · rw [hn] at h
        exact absurd h (by simp [Reply.reachesEnd])
  | tokenize =>
      change (Reply.tokenize s.tokenize.1).reachesEnd = true at h
      change s.tokenize.2.rest = []
      rcases s.tokenize_cases with ⟨ts, -, hrest⟩ | ⟨c, cs, -, -, herr⟩
      · exact hrest
      · rw [herr] at h
        exact absurd h (by simp [Reply.reachesEnd])
  | position => exact absurd h (by simp [answer, Reply.reachesEnd])

/-- A reply with a rejection leaves the scanner in front of the rejected character. -/
theorem next_of_rejection? {s : Scanner} {call : Call} {r : Rejection}
    (h : (s.answer call).1.rejection? = some r) :
    (s.answer call).2.next = (.error r, (s.answer call).2) ∧
      (s.answer call).2.position = r.position := by
  cases call with
  | next =>
      change (Reply.next s.next.1).rejection? = some r at h
      change s.next.2.next = (.error r, s.next.2) ∧ s.next.2.position = r.position
      rcases s.next_cases with ⟨l, rest, hf, hn⟩ | ⟨hr, hn⟩ | ⟨c, cs, -, -, hn⟩
      · rw [hn] at h
        exact absurd h (by simp [Reply.rejection?])
      · rw [hn] at h
        exact absurd h (by simp [Reply.rejection?])
      · rw [hn] at h ⊢
        obtain rfl : ⟨c, s.position⟩ = r := Option.some.inj h
        exact ⟨hn, rfl⟩
  | tokenize =>
      change (Reply.tokenize s.tokenize.1).rejection? = some r at h
      change s.tokenize.2.next = (.error r, s.tokenize.2) ∧ s.tokenize.2.position = r.position
      rcases s.tokenize_cases with ⟨ts, hok, -⟩ | ⟨c, cs, hrest, hc, herr⟩
      · rw [hok] at h
        exact absurd h (by simp [Reply.rejection?])
      · rw [herr] at h
        obtain rfl : ⟨c, s.tokenize.2.position⟩ = r := Option.some.inj h
        exact ⟨next_of_rest_cons hrest hc, rfl⟩
  | position => exact absurd h (by simp [answer, Reply.rejection?])

/-! ### After any calls -/

/-- A scanner is **resumable** in a text if it stands somewhere in it and goes on from there
as a fresh scanner of the text ahead would. -/
structure Resumable (text : List Char) (s : Scanner) : Prop where
  /-- The text is what it was. -/
  text_eq : s.text = text
  /-- The scanner stands within the text. -/
  position_le : s.position ≤ text.length
  /-- No call moves the scanner backwards. -/
  position_le_answer : ∀ call, s.position ≤ (s.answer call).2.position
  /-- A token other than the end mark moves the scanner on, and it has a text. -/
  progress : ∀ t, s.next.1 = .ok t → t.isEnd = false →
    s.position < s.next.2.position ∧ t.text ≠ ""
  /-- All further calls show what they show of a fresh scanner of the text ahead, positions
  aside. -/
  restart : ∀ later, s.session later =
    ((ofText (text.drop s.position)).session later).map fun p =>
      (p.1.shift s.position, s.position + p.2)
  /-- Tokens handed out one by one are missing from those handed out together. -/
  tokenize_after : ∀ n, (∀ result ∈ s.nexts n, ∃ t, result = .ok t ∧ t.isEnd = false) →
    (s.after (List.replicate n .next)).tokenize.1 = s.tokenize.1.map (List.drop n)
  /-- Once the end mark has been given, there is nothing else, and the scanner stays at the
  end of the text. -/
  at_end : ∀ call later, (s.answer call).1.reachesEnd = true →
    (s.answer call).2.session later =
      later.map fun call => (call.settled (.ok .endMark), text.length)
  /-- Once a rejection has been given, there is nothing else, and the scanner stays at the
  rejected character. -/
  at_rejection : ∀ call r later, (s.answer call).1.rejection? = some r →
    (s.answer call).2.session later =
      later.map fun call => (call.settled (.error r), r.position)

/-- Every scanner is resumable in its text. -/
theorem resumable (s : Scanner) : Resumable s.text s where
  text_eq := rfl
  position_le := s.position_le
  position_le_answer call := (s.text_answer call).2
  progress _ htok ht := progress_of_next (Prod.ext htok rfl) ht
  restart later := by rw [← s.rest_eq, ← session_eq_shift]
  tokenize_after _ h := tokenize_after_nexts h
  at_end call later h := by
    have hrest := rest_eq_nil_of_reachesEnd h
    rw [session_of_settled (next_of_rest_nil hrest), position_of_rest_nil hrest,
      (s.text_answer call).1]
    intro t ht
    obtain rfl := Except.ok.inj ht
    rfl
  at_rejection call r later h := by
    obtain ⟨hnext, hpos⟩ := next_of_rejection? h
    rw [session_of_settled hnext, hpos]
    intro t ht
    exact absurd ht (by simp)

/-- **Restartability.** A scanner of a query can be asked for the next token, for all tokens
and for its position in any order, also after rejections: reading the text at its index
never misses it, and after any calls the scanner is resumable in the query. -/
theorem resumable_after (query : String) (calls : List Call) :
    (Cursor.ofText query.toList).session? calls = some ((ofQuery query).session calls) ∧
      Resumable query.toList ((ofQuery query).after calls) := by
  refine ⟨Cursor.session?_ofScanner (ofQuery query) calls, ?_⟩
  have htext : ((ofQuery query).after calls).text = query.toList := text_after _ calls
  rw [← htext]
  exact resumable _

end Scanner

end QueryScan
