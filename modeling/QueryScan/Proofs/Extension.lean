import QueryScan.Proofs.Concatenation

/-!
# Text Added at the End

A scanner looks one character beyond the lexeme that it reads and no further, so text added at
the end of a query is seen by the last lexeme at most. A character that was rejected stays
rejected, at its index, whatever is added: to the left of it nothing changes, and a character of
no class starts no lexeme, whatever comes after it. If nothing was rejected, all tokens but the
last are handed out as before, even where the longer text is rejected later. The last one may go
on with the text that is added, unless it is an operator or a punctuation mark, which nothing
continues.

## Conventions

The readings of a query are its tokens, each with the position of the scanner once it has been
read. Those of a query that is not rejected end with the reading of the end mark, which moves with
the end; so the claims about such a query are about the front of its readings.

## Main results

* `Scanner.take_readings_of_munch`: the lexemes at the front of a text decide the first readings,
  whatever follows them.
* `Scanner.drain_ofQuery_append`: **stability** — what text added at the end of a query leaves as
  it was.
-/

namespace QueryScan

open Lexeme

namespace Scanner

/-- The readings of some lexemes, one after the other, from a position on. -/
def readingsOf (position : Nat) : List Lexeme → List Reading
  | [] => []
  | l :: ls => ⟨l.token, position + l.length⟩ :: readingsOf (position + l.length) ls

/-- There is one reading for each lexeme. -/
@[simp] theorem length_readingsOf (position : Nat) (ls : List Lexeme) :
    (readingsOf position ls).length = ls.length := by
  induction ls generalizing position with
  | nil => rfl
  | cons l ls ih => rw [readingsOf, List.length_cons, ih, List.length_cons]

/-- The lexemes at the front of the text ahead are the first that is read, whether or not the
reading is stopped later. -/
theorem readingsOf_prefix_drain {s : Scanner} {ls : List Lexeme} {rest : List Char}
    (h : Munch s.rest ls rest) : readingsOf s.position ls <+: s.drain.readings := by
  induction ls generalizing s with
  | nil => exact List.nil_prefix
  | cons l ls ih =>
      obtain ⟨ht, -, hpos, hm⟩ := next_of_munch h
      have hn : s.next = (.ok l.token, s.next.2) := Prod.ext ht rfl
      have htail := ih hm
      rw [hpos] at htail
      rw [drain_of_token hn (isEnd_token l), hpos, readingsOf]
      exact List.cons_prefix_cons.mpr ⟨rfl, htail⟩

/-- **The first readings** are those of the lexemes at the front of the text ahead. -/
theorem take_readings_of_munch {s : Scanner} {ls : List Lexeme} {rest : List Char}
    (h : Munch s.rest ls rest) : s.drain.readings.take ls.length = readingsOf s.position ls := by
  have htake := List.prefix_iff_eq_take.mp (readingsOf_prefix_drain h)
  rw [length_readingsOf] at htake
  exact htake.symm

/-- The readings up to a rejection are those of the lexemes in front of it. -/
theorem readings_of_munch_cons {s : Scanner} {ls : List Lexeme} {c : Char} {cs : List Char}
    (h : Munch s.rest ls (c :: cs)) (hc : first? (c :: cs) = none) :
    s.drain.readings = readingsOf s.position ls := by
  have htokens := congrArg List.length (drain_of_munch h hc).1
  have hlength : s.drain.readings.length = ls.length := by simpa using htokens
  rw [← take_readings_of_munch h, ← hlength, List.take_length]

/-- Some lexemes at the front of two texts give both the same first readings. -/
theorem take_readings_prefix {a b : String} {ls : List Lexeme} {rest rest' : List Char}
    (ha : Munch a.toList ls rest) (hb : Munch b.toList ls rest') :
    (ofQuery a).drain.readings.take ls.length <+: (ofQuery b).drain.readings := by
  have ha' : Munch (ofQuery a).rest ls rest := ha
  have hb' : Munch (ofQuery b).rest ls rest' := hb
  rw [take_readings_of_munch ha']
  exact readingsOf_prefix_drain hb'

/-! ### A query that is rejected -/

/-- Text added behind a rejected character leaves the rejection and the readings before it as
they are. -/
theorem drain_append_of_munch_cons {a b : String} {ls : List Lexeme} {c : Char} {cs : List Char}
    (h : Munch a.toList ls (c :: cs)) (hc : first? (c :: cs) = none) :
    (ofQuery (a ++ b)).tokenize.1 = (ofQuery a).tokenize.1 ∧
      (ofQuery (a ++ b)).drain.readings = (ofQuery a).drain.readings ∧
      (ofQuery (a ++ b)).drain.rejection = (ofQuery a).drain.rejection := by
  have ha : Munch (ofQuery a).rest ls (c :: cs) := h
  have hab : Munch (ofQuery (a ++ b)).rest ls (c :: (cs ++ b.toList)) := by
    rw [rest_ofQuery_append]
    exact h.append fun hnil => absurd hnil (by simp)
  -- the first character decides whether a lexeme is ahead, and it is the same
  have hclasses : classes c = [] := first?_eq_none_iff.mp hc c rfl
  have hc' : first? (c :: (cs ++ b.toList)) = none :=
    first?_eq_none_iff.mpr (by simp [hclasses])
  refine ⟨?_, ?_, ?_⟩
  · rw [tokenize_eq_error_of_munch ha hc, tokenize_eq_error_of_munch hab hc']
    rfl
  · rw [readings_of_munch_cons ha hc, readings_of_munch_cons hab hc']
    rfl
  · rw [(drain_of_munch ha hc).2.1, (drain_of_munch hab hc').2.1]
    rfl

/-! ### A query that is not -/

/-- Text added at the end leaves all lexemes but the last as they are: the last one is among what
they leave over. -/
theorem exists_munch_dropLast_append {cs : List Char} {ls : List Lexeme} (h : Munch cs ls [])
    (ds : List Char) : ∃ rest, Munch (cs ++ ds) ls.dropLast rest := by
  cases hlast : ls.getLast? with
  | none =>
      obtain rfl := List.getLast?_eq_none_iff.mp hlast
      exact ⟨cs ++ ds, Munch.nil _⟩
  | some l =>
      obtain ⟨front, rfl⟩ := List.getLast?_eq_some_iff.mp hlast
      obtain ⟨mid, hfront, hl⟩ := h.split
      have hmid : mid ≠ [] := by
        rintro rfl
        exact absurd hl.eq_nil (by simp)
      rw [List.dropLast_concat]
      exact ⟨mid ++ ds, hfront.append fun hnil => absurd hnil hmid⟩

/-- The lexeme of an operator or of a punctuation mark ends before any text. -/
theorem endsBefore_of_kind {l : Lexeme}
    (h : l.token.kind = .operator ∨ l.token.kind = .punctuation) (ds : List Char) :
    l.EndsBefore ds := by
  intro c _
  rw [← goesOn_token, Token.goesOn]
  rcases h with h | h
  · rw [h]
    rfl
  · rw [h]
    rfl

/-- **Text added at the end.** Let some text be added at the end of a query.

* If the query is rejected, it is still rejected, and for the same character at the same position;
  the tokens read before that are the same, and so are the positions at which they end.
* If it scans to some tokens and the end mark, all these tokens but the last are read first, and
  end at the same positions, whether or not the longer query is rejected later; and the last one
  too if it is an operator or a punctuation mark. -/
theorem drain_ofQuery_append (query added : String) :
    (∀ r, (ofQuery query).tokenize.1 = .error r →
      (ofQuery (query ++ added)).tokenize.1 = .error r ∧
      (ofQuery (query ++ added)).drain.readings = (ofQuery query).drain.readings ∧
      (ofQuery (query ++ added)).drain.rejection = some r) ∧
    (∀ ts, (ofQuery query).tokenize.1 = .ok (ts ++ [.endMark]) →
      (ofQuery query).drain.readings.map Reading.token = ts ++ [.endMark] ∧
      (ofQuery query).drain.readings.take (ts.length - 1) <+:
        (ofQuery (query ++ added)).drain.readings ∧
      ((∃ t ∈ ts.getLast?, t.kind = .operator ∨ t.kind = .punctuation) →
        (ofQuery query).drain.readings.take ts.length <+:
          (ofQuery (query ++ added)).drain.readings)) := by
  obtain ⟨ls, rest, hm, hrest⟩ := exists_munch query.toList
  have hm' : Munch (ofQuery query).rest ls rest := hm
  refine ⟨?_, ?_⟩
  · intro r hr
    cases rest with
    | nil =>
        rw [tokenize_eq_ok_of_munch hm'] at hr
        exact absurd hr (by simp)
    | cons c cs =>
        obtain ⟨htokenize, hreadings, hrejection⟩ :=
          drain_append_of_munch_cons (b := added) hm hrest
        have hr' := (tokenize_eq_error_of_munch hm' hrest).symm.trans hr
        refine ⟨htokenize.trans hr, hreadings, ?_⟩
        rw [hrejection, (drain_of_munch hm' hrest).2.1, ← Except.error.inj hr']
        rfl
  · intro ts hts
    cases rest with
    | cons c cs =>
        rw [tokenize_eq_error_of_munch hm' hrest] at hts
        exact absurd hts (by simp)
    | nil =>
        have hts' := (tokenize_eq_ok_of_munch hm').symm.trans hts
        obtain rfl : ls.map token = ts := List.append_cancel_right (Except.ok.inj hts')
        refine ⟨(drain_of_munch hm' hrest).1, ?_, ?_⟩
        · obtain ⟨rest, hfront⟩ := exists_munch_dropLast_append hm added.toList
          rw [← String.toList_append] at hfront
          rw [List.length_map, ← List.length_dropLast]
          obtain ⟨back, hback⟩ := List.dropLast_prefix ls
          obtain ⟨mid, hfront', -⟩ := (hback ▸ hm).split
          exact take_readings_prefix hfront' hfront
        · rintro ⟨t, ht, hkind⟩
          rw [List.getLast?_map] at ht
          obtain ⟨l, hl, rfl⟩ := Option.map_eq_some_iff.mp ht
          have hboth : Munch (query ++ added).toList ls ([] ++ added.toList) := by
            rw [String.toList_append]
            refine hm.append fun _ => ?_
            intro m hmem
            obtain rfl := Option.some.inj (hl.symm.trans hmem)
            exact endsBefore_of_kind hkind _
          rw [List.length_map]
          exact take_readings_prefix hm hboth

/-- The `#` of `a#` is rejected whatever is added behind it. The number at the end of `a+1` goes on
with a digit, and the two tokens before it are read as before although the longer query is
rejected at the `_`. The parenthesis at the end of `f(` goes on with nothing. -/
theorem drain_ofQuery_append_digit :
    (ofQuery ("a#" ++ "b")).tokenize.1 = .error ⟨'#', 1⟩ ∧
    [⟨⟨.identifier, "A"⟩, 1⟩, ⟨⟨.operator, "+"⟩, 2⟩] <+:
      (ofQuery ("a+1" ++ "2_")).drain.readings ∧
    [⟨⟨.identifier, "F"⟩, 1⟩, ⟨⟨.punctuation, "("⟩, 2⟩] <+:
      (ofQuery ("f(" ++ "#")).drain.readings := by
  refine ⟨?_, ?_, ?_⟩
  · have hword : first? "a#".toList = some (⟨.letter, ['a']⟩, ['#']) := by decide +kernel
    have hstop : first? ['#'] = none := by decide +kernel
    have hm : Munch "a#".toList [⟨.letter, ['a']⟩] ['#'] := Munch.of_first? hword (Munch.nil _)
    exact ((drain_ofQuery_append "a#" "b").1 _ (tokenize_ofQuery_eq_error_of_munch hm hstop)).1
  · have hword : first? "a+1".toList = some (⟨.letter, ['a']⟩, ['+', '1']) := by decide +kernel
    have hplus : first? ['+', '1'] = some (⟨.operator, ['+']⟩, ['1']) := by decide +kernel
    have hnumber : first? ['1'] = some (⟨.digit, ['1']⟩, []) := by decide +kernel
    have hfront : ∀ {ls rest}, Munch ['1'] ls rest → Munch (ofQuery "a+1").rest
        (⟨.letter, ['a']⟩ :: ⟨.operator, ['+']⟩ :: ls) rest :=
      fun h => Munch.of_first? hword (Munch.of_first? hplus h)
    have hok : (ofQuery "a+1").tokenize.1 =
        .ok ([⟨.identifier, "A"⟩, ⟨.operator, "+"⟩, ⟨.literal, "1"⟩] ++ [.endMark]) :=
      (tokenize_eq_ok_of_munch (hfront (Munch.of_first? hnumber (Munch.nil _)))).trans
        (congrArg Except.ok (by decide +kernel))
    obtain ⟨-, hkept, -⟩ := (drain_ofQuery_append "a+1" "2_").2 _ hok
    have htake := take_readings_of_munch (hfront (Munch.nil _))
    have hreadings : readingsOf (ofQuery "a+1").position
        [⟨.letter, ['a']⟩, ⟨.operator, ['+']⟩] =
          [⟨⟨.identifier, "A"⟩, 1⟩, ⟨⟨.operator, "+"⟩, 2⟩] := by
      decide +kernel
    exact (htake.trans hreadings) ▸ hkept
  · have hword : first? "f(".toList = some (⟨.letter, ['f']⟩, ['(']) := by decide +kernel
    have hparen : first? ['('] = some (⟨.punctuation, ['(']⟩, []) := by decide +kernel
    have hm : Munch (ofQuery "f(").rest [⟨.letter, ['f']⟩, ⟨.punctuation, ['(']⟩] [] :=
      Munch.of_first? hword (Munch.of_first? hparen (Munch.nil _))
    have hok : (ofQuery "f(").tokenize.1 =
        .ok ([⟨.identifier, "F"⟩, ⟨.punctuation, "("⟩] ++ [.endMark]) :=
      (tokenize_eq_ok_of_munch hm).trans (congrArg Except.ok (by decide +kernel))
    obtain ⟨-, -, hkept⟩ := (drain_ofQuery_append "f(" "#").2 _ hok
    have htake := take_readings_of_munch hm
    have hreadings : readingsOf (ofQuery "f(").position
        [⟨.letter, ['f']⟩, ⟨.punctuation, ['(']⟩] =
          [⟨⟨.identifier, "F"⟩, 1⟩, ⟨⟨.punctuation, "("⟩, 2⟩] := by
      decide +kernel
    exact (htake.trans hreadings) ▸ hkept ⟨_, rfl, Or.inr rfl⟩

end Scanner

end QueryScan
