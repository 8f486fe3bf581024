import QueryScan.Proofs.CaseTable
import QueryScan.Proofs.CheckBeforeScan
import QueryScan.Proofs.Spelling
import QueryScan.Query.Summary

/-!
# How Much Text Tokens Have

The size of a query is checked before it is scanned, and upper-casing changes sizes afterwards:
`ΐ` becomes three characters and grows from two bytes to six, and the dotless i shrinks from two
bytes to one. So the limit on queries is no limit on the texts of their tokens. It is one up to a
factor, because a character of a word is upper-cased to between one and three characters, with no
less than half of its bytes and no more than three times as many.

The factors are found character by character in the case table and add up over words, lexemes and
whole queries: what one text is **scaled** to in parts, it is scaled to as a whole.

## Main results

* `scaled_upperChar`: the factors for one character.
* `scaled_spelled`: what the lexemes of a text have is scaled to what their tokens have.
* `Query.exists_grown`: queries of any even number of bytes up to the limit whose tokens have three
  times as much text.
* `Query.tokens_scaled`: **the size of the tokens** of a query, and that the limit on queries does
  not limit it without the factor.
-/

namespace QueryScan

open Lexeme

/-! ### Scaled texts -/

/-- A text is **scaled** to another one if that has no fewer characters and no more than three times
as many, and no less than half of its bytes and no more than three times as many. -/
structure Scaled (cs ds : List Char) : Prop where
  /-- There are no fewer characters. -/
  le_length : cs.length ≤ ds.length
  /-- There are no more than three characters for each. -/
  length_le : ds.length ≤ 3 * cs.length
  /-- There is one byte at least for every two. -/
  le_bytes : (Utf8.encode cs).length ≤ 2 * (Utf8.encode ds).length
  /-- There are no more than three bytes for each. -/
  bytes_le : (Utf8.encode ds).length ≤ 3 * (Utf8.encode cs).length

namespace Scaled

/-- Every text is scaled to itself. -/
theorem refl (cs : List Char) : Scaled cs cs where
  le_length := Nat.le_refl _
  length_le := by omega
  le_bytes := by omega
  bytes_le := by omega

/-- Texts that are scaled part by part are scaled as a whole. -/
theorem append {as bs cs ds : List Char} (h : Scaled as bs) (h' : Scaled cs ds) :
    Scaled (as ++ cs) (bs ++ ds) := by
  have hbytes : ∀ cs ds : List Char, (Utf8.encode (cs ++ ds)).length =
      (Utf8.encode cs).length + (Utf8.encode ds).length := by
    intro cs ds
    rw [Utf8.encode, List.flatMap_append, List.length_append]
    rfl
  obtain ⟨h1, h2, h3, h4⟩ := h
  obtain ⟨h1', h2', h3', h4'⟩ := h'
  constructor
  · simp only [List.length_append]
    omega
  · simp only [List.length_append]
    omega
  · simp only [hbytes]
    omega
  · simp only [hbytes]
    omega

end Scaled

/-! ### Upper case -/

/-- The factors for the characters in the case table. -/
theorem scaled_of_mem_caseTable {c : Char} {cs : List Char} (h : (c, cs) ∈ caseTable) :
    Scaled [c] cs := by
  have hall : (caseTable.all fun entry =>
      decide (1 ≤ entry.2.length) && decide (entry.2.length ≤ 3) &&
        (decide ((Utf8.encode [entry.1]).length ≤ 2 * (Utf8.encode entry.2).length) &&
          decide ((Utf8.encode entry.2).length ≤ 3 * (Utf8.encode [entry.1]).length))) = true := by
    decide +kernel
  have hentry := List.all_eq_true.mp hall (c, cs) h
  simp only [Bool.and_eq_true, decide_eq_true_eq] at hentry
  obtain ⟨⟨h1, h2⟩, h3, h4⟩ := hentry
  exact ⟨h1, h2, h3, h4⟩

/-- **The factors for one character** and its upper case. -/
theorem scaled_upperChar (c : Char) : Scaled [c] (upperChar c) := by
  rcases upperChar_eq_self_or_mem c with hself | hmem
  · rw [hself]
    exact Scaled.refl [c]
  · exact scaled_of_mem_caseTable hmem

/-- A text is scaled to its upper case. -/
theorem scaled_upperCase (cs : List Char) : Scaled cs (upperCase cs) := by
  induction cs with
  | nil => exact Scaled.refl []
  | cons c cs ih => exact (scaled_upperChar c).append ih

/-! ### Tokens -/

/-- A lexeme is scaled to the text of its token. -/
theorem Lexeme.scaled_text (l : Lexeme) : Scaled l.chars l.token.text.toList := by
  rw [l.toList_token_text]
  split
  · exact scaled_upperCase l.chars
  · exact Scaled.refl l.chars

/-- **Lexemes are scaled** to the texts of their tokens, one after the other. -/
theorem scaled_spelled (ls : List Lexeme) : Scaled (joined ls) (spelled (ls.map token)).toList := by
  induction ls with
  | nil =>
      rw [List.map_nil, toList_spelled_nil]
      exact Scaled.refl []
  | cons l ls ih =>
      rw [joined_cons, List.map_cons, toList_spelled_cons]
      exact l.scaled_text.append ih

/-- There are no more lexemes than characters, as none is empty. -/
theorem length_le_length_joined {ls : List Lexeme} (h : ∀ l ∈ ls, l.WellFormed) :
    ls.length ≤ (joined ls).length := by
  induction ls with
  | nil => exact Nat.le_refl _
  | cons l ls ih =>
      obtain ⟨hl, hls⟩ := List.forall_mem_cons.mp h
      have hpos : 0 < l.length := List.length_pos_iff.mpr hl.chars_ne_nil
      have hle := ih hls
      rw [length_joined_cons, List.length_cons]
      omega

/-- The bytes that a summary counts are those of the texts, one after the other. -/
theorem Summary.bytes_ofTokens (ts : List Token) :
    (ofTokens ts).bytes = (spelled ts).utf8ByteSize := by
  have hfold : ∀ (n : Nat) (ts : List Token),
      ts.foldl (fun n t => n + t.text.utf8ByteSize) n = n + (spelled ts).utf8ByteSize := by
    intro n ts
    induction ts generalizing n with
    | nil => rfl
    | cons t ts ih =>
        have hspelled : spelled (t :: ts) = t.text ++ spelled ts := by
          rw [← String.toList_inj, toList_spelled_cons, String.toList_append]
        rw [List.foldl_cons, ih, hspelled, String.utf8ByteSize_append, Nat.add_assoc]
  rw [ofTokens, hfold, Nat.zero_add]

namespace Query

/-! ### Queries -/

/-- What a scan makes of a query: its number of tokens, and the size of their texts. -/
theorem scaled_of_tokenize {query : String} {ts : List Token}
    (h : (Scanner.ofQuery query).tokenize.1 = .ok ts) :
    ts.length ≤ query.length + 1 ∧ (0 < query.length → 2 ≤ ts.length) ∧
      Scaled query.toList (spelled ts).toList := by
  obtain ⟨ls, hm, rfl⟩ := Scanner.tokenize_eq_ok_iff_munch.mp h
  have hjoined : joined ls = query.toList := hm.joined_eq
  have hle := length_le_length_joined hm.wellFormed
  rw [hjoined, String.length_toList] at hle
  refine ⟨?_, ?_, ?_⟩
  · simpa using hle
  · intro hpos
    have hne : ls ≠ [] := by
      rintro rfl
      rw [← String.length_toList, ← hjoined] at hpos
      exact absurd hpos (by simp)
    have hlength := List.length_pos_iff.mpr hne
    simp only [List.length_append, List.length_map, List.length_cons, List.length_nil]
    omega
  · rw [spelled_concat_endMark, ← hjoined]
    exact scaled_spelled ls

/-- The letter `ΐ`, so many times, makes three times as many bytes. -/
theorem length_encode_upperCase_replicate (n : Nat) :
    (Utf8.encode (List.replicate n 'ΐ')).length = 2 * n ∧
      (Utf8.encode (upperCase (List.replicate n 'ΐ'))).length = 6 * n := by
  have hletter : (Utf8.encodeChar 'ΐ').length = 2 := by decide +kernel
  have hupper : (Utf8.encode (upperChar 'ΐ')).length = 6 := by decide +kernel
  induction n with
  | zero => exact ⟨rfl, rfl⟩
  | succ n ih =>
      obtain ⟨h, h'⟩ := ih
      constructor
      · rw [List.replicate_succ, Utf8.encode, List.flatMap_cons, List.length_append, hletter,
          ← Utf8.encode, h]
        omega
      · rw [List.replicate_succ, upperCase_cons, Utf8.encode, List.flatMap_append,
          List.length_append, ← Utf8.encode, ← Utf8.encode, hupper, h']
        omega

/-- **Grown queries**: for any even number of bytes that a query may have there is one whose tokens
have three times as many. It is one word. -/
theorem exists_grown {n : Nat} (hn : 0 < n) (hmax : 2 * n ≤ maxLength) :
    ∃ query ts, tokenize query = .ok ts ∧ query.utf8ByteSize = 2 * n ∧
      (Summary.ofTokens ts).bytes = 6 * n := by
  obtain ⟨hbytes, hgrown⟩ := length_encode_upperCase_replicate n
  have hletter : isLetter 'ΐ' = true := by decide +kernel
  have hwordChar : isWordChar 'ΐ' = true := by rw [isWordChar, hletter]; rfl
  obtain ⟨m, rfl⟩ : ∃ m, n = m + 1 := ⟨n - 1, by omega⟩
  generalize hcs : List.replicate (m + 1) 'ΐ' = cs at hbytes hgrown
  have hsize : (String.ofList cs).utf8ByteSize = 2 * (m + 1) := by
    rw [← Utf8.length_encode, String.toList_ofList, hbytes]
  have hw : WellFormed ⟨.letter, cs⟩ := by
    rw [← hcs, List.replicate_succ]
    refine wellFormed_cons_iff.mpr ⟨hletter, ?_⟩
    intro d hd
    rw [List.eq_of_mem_replicate hd]
    exact hwordChar
  have hm : Munch (Scanner.ofQuery (String.ofList cs)).rest [⟨.letter, cs⟩] [] := by
    have hnil : EndsBefore ⟨.letter, cs⟩ [] := by simp [EndsBefore]
    have hmunch := Munch.cons hw hnil (Munch.nil [])
    rw [List.append_nil] at hmunch
    change Munch (String.ofList cs).toList _ _
    rw [String.toList_ofList]
    exact hmunch
  have hvalid : validate (String.ofList cs) = .ok () :=
    validate_eq_ok_iff.mpr (by omega)
  refine ⟨String.ofList cs, [token ⟨.letter, cs⟩, .endMark], ?_, hsize, ?_⟩
  · rw [tokenize_of_validate_ok hvalid, Scanner.tokenize_eq_ok_of_munch hm]
    rfl
  · have hspelled : (spelled [token ⟨.letter, cs⟩, .endMark]).toList = upperCase cs := by
      rw [toList_spelled_cons, toList_spelled_cons, toList_spelled_nil, toList_token_text]
      simp [Token.endMark]
    rw [Summary.bytes_ofTokens, ← Utf8.length_encode, hspelled, hgrown]

/-- **The size of the tokens.** Let a query of some characters and bytes scan to some tokens.

* There is one token more than characters at most, and two at least if there is a character; the
  texts of the tokens have no fewer characters and no more than three times as many; and they have
  no less than half of the bytes and no more than three times as many.
* A query that passes the check has 1048577 tokens at most, with 3145728 bytes of text at most.
* There is one whose tokens have that many bytes, so more than a query may have. -/
theorem tokens_scaled :
    (∀ query ts, (Scanner.ofQuery query).tokenize.1 = .ok ts →
      (ts.length ≤ query.length + 1 ∧ (0 < query.length → 2 ≤ ts.length)) ∧
      (query.length ≤ (spelled ts).length ∧ (spelled ts).length ≤ 3 * query.length) ∧
      (query.utf8ByteSize ≤ 2 * (Summary.ofTokens ts).bytes ∧
        (Summary.ofTokens ts).bytes ≤ 3 * query.utf8ByteSize)) ∧
    (∀ query ts, tokenize query = .ok ts →
      ts.length ≤ 1048577 ∧ (Summary.ofTokens ts).bytes ≤ 3145728) ∧
    ∃ query ts, tokenize query = .ok ts ∧ (Summary.ofTokens ts).bytes = 3145728 ∧
      maxLength < (Summary.ofTokens ts).bytes := by
  have hscan : ∀ query ts, (Scanner.ofQuery query).tokenize.1 = .ok ts →
      (ts.length ≤ query.length + 1 ∧ (0 < query.length → 2 ≤ ts.length)) ∧
      (query.length ≤ (spelled ts).length ∧ (spelled ts).length ≤ 3 * query.length) ∧
      (query.utf8ByteSize ≤ 2 * (Summary.ofTokens ts).bytes ∧
        (Summary.ofTokens ts).bytes ≤ 3 * query.utf8ByteSize) := by
    intro query ts h
    obtain ⟨hmost, hleast, hscaled⟩ := scaled_of_tokenize h
    obtain ⟨h1, h2, h3, h4⟩ := hscaled
    rw [String.length_toList, String.length_toList] at h1 h2
    rw [Utf8.length_encode, Utf8.length_encode] at h3 h4
    rw [Summary.bytes_ofTokens]
    exact ⟨⟨hmost, hleast⟩, ⟨h1, h2⟩, h3, h4⟩
  refine ⟨hscan, ?_, ?_⟩
  · intro query ts h
    rcases tokenize_cases query with ⟨reason, -, herr⟩ | ⟨r, -, -, herr⟩ | ⟨us, hvalid, hok, heq⟩
    · exact absurd (herr.symm.trans h) (by simp)
    · exact absurd (herr.symm.trans h) (by simp)
    · obtain rfl : us = ts := Except.ok.inj (heq.symm.trans h)
      have hsize := (validate_eq_ok_iff_sizeAllowed.mp hvalid).2
      have hlength := length_le_utf8ByteSize query
      obtain ⟨⟨hmost, -⟩, -, -, hbytes⟩ := hscan query us hok
      omega
  · have hmax : 2 * 524288 ≤ maxLength := by decide
    obtain ⟨query, ts, hok, -, hbytes⟩ := exists_grown (by decide) hmax
    have hlimit : maxLength = 1048576 := rfl
    exact ⟨query, ts, hok, by omega, by omega⟩

end Query

end QueryScan
