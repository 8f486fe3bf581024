import Mathlib.Data.List.Forall2
import QueryScan.Proofs.CaseTable
import QueryScan.Proofs.Spelling

/-!
# The Spellings of a Keyword

A word is reserved if its upper case is, so a keyword has more spellings than its capitals. Of
the letters beyond ASCII two have a capital of ASCII as their upper case, the long s and the
dotless i, and words such as `ſelect` and `ınto` are reserved. Others are upper-cased to two or
three capitals of ASCII, such as the ligature of `f` and `i`; a word with one of them would be
reserved too if a keyword had these capitals side by side. None has
(`upperChar_eq_singleton_or_not_infix`), and that leaves the spellings that go letter by letter.

## Main results

* `upperCase_eq_iff_spells`: the texts whose upper case is the end of a keyword spell it letter by
  letter.
* `Lexeme.wordToken_eq_keyword_iff`: the words that make a keyword are its spellings.
* `Scanner.next_word_eq_keyword_iff`: **the keywords in a text** — a scanner hands out a keyword
  for exactly these words, and an identifier for all others.
-/

namespace QueryScan

open Lexeme

/-- The character **spells** a capital letter: it is the capital or its small letter, the long s
for an `S`, or the dotless i for an `I`. -/
def spellsLetter (c capital : Char) : Bool :=
  c == capital || c == capital.toLower || c == 'ſ' && capital == 'S' || c == 'ı' && capital == 'I'

/-- The characters **spell** some capital letters: there are as many of them, and each spells
the letter at its place. -/
def Spells (cs capitals : List Char) : Prop :=
  List.Forall₂ (fun c capital => spellsLetter c capital = true) cs capitals

instance (cs capitals : List Char) : Decidable (Spells cs capitals) :=
  inferInstanceAs (Decidable (List.Forall₂ _ _ _))

/-! ### Letter by letter -/

/-- A capital in the table is spelled by the character that has it as its upper case, and several
characters that one character is upper-cased to are nowhere in a keyword. -/
theorem caseTable_keywords {c : Char} {cs : List Char} (h : (c, cs) ∈ caseTable) :
    (∃ d, cs = [d] ∧ (d.isUpper = true → spellsLetter c d = true)) ∨
      ∀ k ∈ keywords, ¬cs <:+: k.toList := by
  have hall : (caseTable.all fun entry =>
      entry.2.length == 1 && (entry.2.all fun d => !d.isUpper || spellsLetter entry.1 d) ||
        keywords.all fun k => !decide (entry.2 <:+: k.toList)) = true := by
    decide +kernel
  have hentry := List.all_eq_true.mp hall (c, cs) h
  rcases Bool.or_eq_true_iff.mp hentry with hsingle | hnot
  · obtain ⟨hlen, hspells⟩ := Bool.and_eq_true_iff.mp hsingle
    obtain ⟨d, rfl⟩ := List.length_eq_one_iff.mp (eq_of_beq hlen)
    refine Or.inl ⟨d, rfl, ?_⟩
    intro hd
    simpa [hd] using hspells
  · exact Or.inr (by simpa using hnot)

/-- **The share of a character in a keyword** is one letter: it has one character as its upper
case, which it spells if that is a capital, or its upper case is nowhere in a keyword. -/
theorem upperChar_eq_singleton_or_not_infix (c : Char) :
    (∃ d, upperChar c = [d] ∧ (d.isUpper = true → spellsLetter c d = true)) ∨
      ∀ k ∈ keywords, ¬upperChar c <:+: k.toList := by
  rcases upperChar_eq_self_or_mem c with hself | hmem
  · exact Or.inl ⟨c, hself, fun _ => by simp [spellsLetter]⟩
  · exact caseTable_keywords hmem

/-- The letters of the keywords are capitals, and the upper case of themselves and of their small
letters. -/
theorem upperChar_of_mem_keyword {k : String} (hk : k ∈ keywords) {d : Char} (hd : d ∈ k.toList) :
    d.isUpper = true ∧ upperChar d = [d] ∧ upperChar d.toLower = [d] := by
  have hall : (keywords.all fun k => k.toList.all fun d =>
      d.isUpper && (upperChar d == [d] && upperChar d.toLower == [d])) = true := by
    decide +kernel
  simpa using List.all_eq_true.mp (List.all_eq_true.mp hall k hk) d hd

/-- What spells a letter of a keyword is upper-cased to it. -/
theorem upperChar_of_spellsLetter {k : String} (hk : k ∈ keywords) {c d : Char}
    (hd : d ∈ k.toList) (h : spellsLetter c d = true) : upperChar c = [d] := by
  obtain ⟨-, hcapital, hsmall⟩ := upperChar_of_mem_keyword hk hd
  simp only [spellsLetter, Bool.or_eq_true, Bool.and_eq_true, beq_iff_eq] at h
  rcases h with ((rfl | rfl) | ⟨rfl, rfl⟩) | ⟨rfl, rfl⟩
  · exact hcapital
  · exact hsmall
  · decide +kernel
  · decide +kernel

/-- **Letter by letter**: the characters whose upper case is the end of a keyword are those that
spell it. Induction on the characters; the end of a keyword that is left over when one of its
letters has been spelled is the end of a keyword again. -/
theorem upperCase_eq_iff_spells {k : String} (hk : k ∈ keywords) {cs ds : List Char}
    (hds : ds <:+ k.toList) : upperCase cs = ds ↔ Spells cs ds := by
  induction cs generalizing ds with
  | nil => rw [upperCase_nil, Spells, List.forall₂_nil_left_iff, eq_comm]
  | cons c cs ih =>
      rw [upperCase_cons, Spells, List.forall₂_cons_left_iff]
      constructor
      · intro h
        rcases upperChar_eq_singleton_or_not_infix c with ⟨d, hd, hspells⟩ | hnot
        · rw [hd, List.singleton_append] at h
          subst h
          have hmem : d ∈ k.toList := hds.subset (by simp)
          have htail := (List.suffix_cons d _).trans hds
          exact ⟨d, upperCase cs, hspells (upperChar_of_mem_keyword hk hmem).1,
            (ih htail).mp rfl, rfl⟩
        · -- no keyword has room for what the character becomes
          have hpart : upperChar c <:+: ds := ⟨[], upperCase cs, by simpa using h⟩
          exact absurd (hpart.trans hds.isInfix) (hnot k hk)
      · rintro ⟨d, ds', hspells, hrest, rfl⟩
        have hmem : d ∈ k.toList := hds.subset (by simp)
        rw [upperChar_of_spellsLetter hk hmem hspells,
          (ih ((List.suffix_cons d ds').trans hds)).mpr hrest]
        rfl

/-! ### Words -/

namespace Lexeme

/-- **The words that make a keyword** are its spellings. -/
theorem wordToken_eq_keyword_iff {k : String} (hk : k ∈ keywords) {cs : List Char} :
    wordToken cs = ⟨.keyword, k⟩ ↔ Spells cs k.toList := by
  rw [← upperCase_eq_iff_spells hk (List.suffix_refl _), wordToken]
  constructor
  · intro h
    rw [← (Token.mk.inj h).2, String.toList_ofList]
  · intro h
    have hkeyword : isKeyword k = true := by simpa [isKeyword] using hk
    simp only [h, String.ofList_toList, hkeyword, if_pos]

/-- A word that spells no keyword makes an identifier. -/
theorem wordToken_eq_identifier {cs : List Char} (h : ∀ k ∈ keywords, ¬Spells cs k.toList) :
    wordToken cs = ⟨.identifier, String.ofList (upperCase cs)⟩ := by
  have hnot : ¬isKeyword (String.ofList (upperCase cs)) = true := by
    intro hkeyword
    have hmem : String.ofList (upperCase cs) ∈ keywords := by simpa [isKeyword] using hkeyword
    refine h _ hmem ((upperCase_eq_iff_spells hmem (List.suffix_refl _)).mp ?_)
    rw [String.toList_ofList]
  rw [wordToken, if_neg hnot]

/-- A word with a character that has several characters as its upper case spells no keyword. -/
theorem not_spells_of_length_upperChar {cs : List Char} {c : Char} (hc : c ∈ cs)
    (hlen : (upperChar c).length ≠ 1) {k : String} (hk : k ∈ keywords) : ¬Spells cs k.toList := by
  intro h
  have hupper := (upperCase_eq_iff_spells hk (List.suffix_refl _)).mpr h
  obtain ⟨before, after, rfl⟩ := List.append_of_mem hc
  rw [upperCase_append, upperCase_cons] at hupper
  rcases upperChar_eq_singleton_or_not_infix c with ⟨d, hd, -⟩ | hnot
  · exact hlen (by rw [hd]; rfl)
  · exact hnot k hk ⟨upperCase before, upperCase after, by rw [← hupper, List.append_assoc]⟩

end Lexeme

namespace Scanner

/-- **The keywords in a text.** Let a scanner stand in front of a word, a letter with the letters,
digits and `_` that follow it, and ask it for the next token. It reads this word; it hands out a
given keyword exactly if the word spells it; and it hands out an identifier if the word spells no
keyword, and so for every word with a character that has several characters as its upper case. -/
theorem next_word_eq_keyword_iff {s : Scanner} {word rest : List Char} (hw : isWord word = true)
    (hrest : s.rest = word ++ rest) (hend : ∀ c ∈ rest.head?, isWordChar c = false) :
    s.next.2.rest = rest ∧
    (∀ k ∈ keywords, s.next.1 = .ok ⟨.keyword, k⟩ ↔ Spells word k.toList) ∧
    ((∀ k ∈ keywords, ¬Spells word k.toList) →
      s.next.1 = .ok ⟨.identifier, String.ofList (upperCase word)⟩) ∧
    ((∃ c ∈ word, (upperChar c).length ≠ 1) →
      s.next.1 = .ok ⟨.identifier, String.ofList (upperCase word)⟩) := by
  have hfirst : first? s.rest = some (⟨.letter, word⟩, rest) := by
    rw [hrest]
    exact first?_append (l := ⟨.letter, word⟩) (wellFormed_letter_iff.mpr hw) hend
  have htoken : s.next.1 = .ok (wordToken word) := by rw [next_of_first? hfirst]; rfl
  refine ⟨by rw [next_of_first? hfirst]; rfl, ?_, ?_, ?_⟩
  · intro k hk
    rw [htoken, Except.ok.injEq]
    exact wordToken_eq_keyword_iff hk
  · intro hnot
    rw [htoken, wordToken_eq_identifier hnot]
  · rintro ⟨c, hc, hlen⟩
    rw [htoken, wordToken_eq_identifier fun k hk => not_spells_of_length_upperChar hc hlen hk]

/-- A long s and a dotless i do not keep a word from being reserved. The ligature of `s` and `t`
does: the word has the upper case of none of the keywords. -/
theorem next_insert_long_s :
    (ofQuery "ınſert;").next.1 = .ok ⟨.keyword, "INSERT"⟩ ∧
    (ofQuery "inﬆ(").next.1 = .ok ⟨.identifier, "INST"⟩ := by
  have hword : isWord "ınſert".toList = true := by decide +kernel
  have hligature : isWord "inﬆ".toList = true := by decide +kernel
  have hinsert : (ofQuery "ınſert;").rest = "ınſert".toList ++ [';'] := rfl
  have hinst : (ofQuery "inﬆ(").rest = "inﬆ".toList ++ ['('] := rfl
  have hsemicolon : isWordChar ';' = false := by decide +kernel
  have hparen : isWordChar '(' = false := by decide +kernel
  constructor
  · have hnext := next_word_eq_keyword_iff hword hinsert (by simp [hsemicolon])
    exact (hnext.2.1 "INSERT" (by decide)).mpr (by decide +kernel)
  · have hnext := next_word_eq_keyword_iff hligature hinst (by simp [hparen])
    rw [hnext.2.2.2 ⟨'ﬆ', by decide, by decide +kernel⟩]
    decide +kernel

end Scanner

end QueryScan
