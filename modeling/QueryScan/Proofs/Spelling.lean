import QueryScan.Proofs.TokenText
import QueryScan.Proofs.Tokenization

/-!
# Spelling Tokens Out

The texts of some tokens, one after the other, make a query again. Scanning it gives the
tokens back only if each of them is spelled as a scan would spell it, and if no two
neighbours run together: the language has no blank to keep them apart.

A token is **canonical** if its text is of the shape that its kind asks for. Two neighbours
**merge** if the first character of the second continues the first, which their kinds decide:
a word swallows a word or a number after it, and a number swallows a number; a word after a
number starts afresh.

## Main results

* `Token.isCanonical_iff`: the canonical tokens are those of the well-formed lexemes that are
  written as the text of their token.
* `munch_joined_iff`: lexemes written together are taken apart as they were exactly if no two
  neighbours merge.
* `eq_of_map_token_eq`: lexemes that are written as their tokens have no rivals, which would
  make the same tokens of the same characters.
* `Scanner.tokenize_spelled_eq_ok_iff`: **spelling, then scanning** gives canonical tokens
  back exactly if no two neighbours merge.
-/

namespace QueryScan

open Lexeme

/-! ### Canonical tokens -/

/-- The text starts with a letter and consists of letters, digits and `_`. -/
def isWord (cs : List Char) : Bool :=
  cs.head?.any isLetter && cs.all isWordChar

/-- The text is a single character, for which the condition holds. -/
def isSingle (p : Char → Bool) (cs : List Char) : Bool :=
  cs.length == 1 && cs.all p

/-- A token is **canonical** if it is a keyword with the text of a reserved word, an identifier
with a word that is its own upper case and not reserved, a literal with a run of digits, or
an operator or a punctuation mark with a character of that class. -/
def Token.isCanonical (t : Token) : Bool :=
  let cs := t.text.toList
  match t.kind with
  | .keyword => isKeyword t.text
  | .identifier => isWord cs && upperCase cs == cs && !isKeyword t.text
  | .literal => !cs.isEmpty && cs.all isDigit
  | .operator => isSingle isOperator cs
  | .punctuation => isSingle isPunctuation cs
  | .whitespace | .comment | .endMark => false

/-- The texts of some tokens, one after the other. -/
def spelled (ts : List Token) : String :=
  String.join (ts.map Token.text)

/-- No tokens, no text. -/
@[simp] theorem toList_spelled_nil : (spelled []).toList = [] := by
  simp [spelled]

/-- The text of the first token comes first. -/
@[simp] theorem toList_spelled_cons (t : Token) (ts : List Token) :
    (spelled (t :: ts)).toList = t.text.toList ++ (spelled ts).toList := by
  simp [spelled]

/-- The end mark adds no text. -/
theorem spelled_concat_endMark (ts : List Token) : spelled (ts ++ [.endMark]) = spelled ts := by
  simp [spelled, Token.endMark, String.join_append]

namespace Lexeme

/-- A lexeme without characters is not well formed. -/
theorem not_wellFormed_nil (k : CharClass) : ¬WellFormed ⟨k, []⟩ :=
  fun h => h.chars_ne_nil rfl

/-- A lexeme is well formed if its first character starts it and all others continue it. -/
theorem wellFormed_cons_iff {k : CharClass} {c : Char} {cs : List Char} :
    WellFormed ⟨k, c :: cs⟩ ↔ k.holds c = true ∧ ∀ d ∈ cs, k.continues d = true := by
  constructor
  · rintro ⟨c', cs', hchars, hc, hcs⟩
    obtain ⟨rfl, rfl⟩ := List.cons.inj hchars
    exact ⟨hc, hcs⟩
  · rintro ⟨hc, hcs⟩
    exact ⟨c, cs, rfl, hc, hcs⟩

/-- The lexemes that start with a letter are the words. -/
theorem wellFormed_letter_iff {cs : List Char} :
    WellFormed ⟨.letter, cs⟩ ↔ isWord cs = true := by
  cases cs with
  | nil => simp [not_wellFormed_nil, isWord]
  | cons c cs =>
      have hword : isLetter c = true → isWordChar c = true := by
        intro hc
        rw [isWordChar, hc]
        rfl
      rw [wellFormed_cons_iff]
      simpa [isWord, CharClass.holds, CharClass.continues] using fun hc _ => hword hc

/-- The lexemes that start with a digit are the runs of digits. -/
theorem wellFormed_digit_iff {cs : List Char} :
    WellFormed ⟨.digit, cs⟩ ↔ (!cs.isEmpty && cs.all isDigit) = true := by
  cases cs with
  | nil => simp [not_wellFormed_nil]
  | cons c cs =>
      rw [wellFormed_cons_iff]
      simp [CharClass.holds, CharClass.continues]

/-- The lexemes of a class that nothing continues are its characters. -/
theorem wellFormed_single_iff {k : CharClass} (hk : k.continues = fun _ => false)
    {cs : List Char} : WellFormed ⟨k, cs⟩ ↔ isSingle k.holds cs = true := by
  match cs with
  | [] => simp [not_wellFormed_nil, isSingle]
  | [c] => simp [wellFormed_cons_iff, isSingle]
  | c :: d :: cs =>
      rw [wellFormed_cons_iff, hk]
      constructor
      · rintro ⟨-, hcs⟩
        exact absurd (hcs d (by simp)) (by simp)
      · intro h
        exact absurd h (by simp [isSingle])

/-- A lexeme is **verbatim** if it is well formed and written as the text of its token: it is
no word, or a word in upper case. -/
structure Verbatim (l : Lexeme) : Prop where
  /-- It is well formed. -/
  wellFormed : l.WellFormed
  /-- Its token has its characters as the text. -/
  text_eq : l.token.text.toList = l.chars

end Lexeme

/-- A reserved word is a word and its own upper case. -/
theorem isWord_of_isKeyword {s : String} (h : isKeyword s = true) :
    isWord s.toList = true ∧ upperCase s.toList = s.toList := by
  have hall : (keywords.all fun w => isWord w.toList && upperCase w.toList == w.toList) = true := by
    decide +kernel
  simpa using List.all_eq_true.mp hall s (by simpa [isKeyword] using h)

/-- A word in upper case makes the token that has it as its text. -/
theorem Lexeme.verbatim_of_upperCase {s : String} (hw : isWord s.toList = true)
    (hu : upperCase s.toList = s.toList) :
    Verbatim ⟨.letter, s.toList⟩ ∧
      token ⟨.letter, s.toList⟩ = ⟨if isKeyword s then .keyword else .identifier, s⟩ := by
  have htoken : token ⟨.letter, s.toList⟩ =
      ⟨if isKeyword s then .keyword else .identifier, s⟩ := by
    simp only [token, wordToken, hu, String.ofList_toList]
  exact ⟨⟨wellFormed_letter_iff.mpr hw, by rw [htoken]⟩, htoken⟩

/-- **The canonical tokens** are the tokens of the verbatim lexemes. -/
theorem Token.isCanonical_iff {t : Token} :
    t.isCanonical = true ↔ ∃ l : Lexeme, l.Verbatim ∧ l.token = t := by
  constructor
  · intro h
    obtain ⟨kind, s⟩ := t
    cases kind with
    | keyword =>
        have hk : isKeyword s = true := h
        obtain ⟨hw, hu⟩ := isWord_of_isKeyword hk
        obtain ⟨hv, htoken⟩ := verbatim_of_upperCase hw hu
        exact ⟨_, hv, by rw [htoken, if_pos hk]⟩
    | identifier =>
        obtain ⟨⟨hw, hu⟩, hk⟩ : (isWord s.toList = true ∧ upperCase s.toList = s.toList) ∧
            isKeyword s = false := by
          simpa [isCanonical] using h
        obtain ⟨hv, htoken⟩ := verbatim_of_upperCase hw hu
        exact ⟨_, hv, by rw [htoken, hk]; rfl⟩
    | literal =>
        refine ⟨⟨.digit, s.toList⟩, ⟨wellFormed_digit_iff.mpr h, ?_⟩, ?_⟩ <;> simp [token]
    | operator =>
        refine ⟨⟨.operator, s.toList⟩, ⟨(wellFormed_single_iff rfl).mpr h, ?_⟩, ?_⟩ <;> simp [token]
    | punctuation =>
        refine ⟨⟨.punctuation, s.toList⟩, ⟨(wellFormed_single_iff rfl).mpr h, ?_⟩, ?_⟩ <;>
          simp [token]
    | whitespace => exact absurd h (by simp [isCanonical])
    | comment => exact absurd h (by simp [isCanonical])
    | endMark => exact absurd h (by simp [isCanonical])
  · rintro ⟨⟨start, cs⟩, ⟨hw, htext⟩, rfl⟩
    cases start with
    | letter =>
        have hu : upperCase cs = cs := by simpa [token, wordToken] using htext
        have hword := wellFormed_letter_iff.mp hw
        cases hk : isKeyword (String.ofList cs) with
        | true => simp [token, wordToken, hu, hk, isCanonical]
        | false => simp [token, wordToken, hu, hk, isCanonical, hword]
    | digit => simpa [token, isCanonical] using wellFormed_digit_iff.mp hw
    | operator =>
        have hs : isSingle isOperator cs = true := (wellFormed_single_iff rfl).mp hw
        simpa [token, isCanonical] using hs
    | punctuation =>
        have hs : isSingle isPunctuation cs = true := (wellFormed_single_iff rfl).mp hw
        simpa [token, isCanonical] using hs

/-- Canonical tokens are made by verbatim lexemes, one by one. -/
theorem exists_verbatim {ts : List Token} (h : ∀ t ∈ ts, t.isCanonical = true) :
    ∃ ls : List Lexeme, ls.map token = ts ∧ ∀ l ∈ ls, l.Verbatim := by
  induction ts with
  | nil => exact ⟨[], rfl, by simp⟩
  | cons t ts ih =>
      obtain ⟨l, hl, rfl⟩ := Token.isCanonical_iff.mp (h t (by simp))
      obtain ⟨ls, rfl, hls⟩ := ih fun t ht => h t (by simp [ht])
      refine ⟨l :: ls, rfl, ?_⟩
      intro m hm
      rcases List.mem_cons.mp hm with rfl | hm
      · exact hl
      · exact hls m hm

/-- The tokens of verbatim lexemes are spelled as the lexemes are written. -/
theorem toList_spelled {ls : List Lexeme} (h : ∀ l ∈ ls, l.Verbatim) :
    (spelled (ls.map token)).toList = joined ls := by
  induction ls with
  | nil => exact toList_spelled_nil
  | cons l ls ih =>
      rw [List.map_cons, toList_spelled_cons, (h l (by simp)).text_eq,
        ih fun m hm => h m (by simp [hm]), joined_cons]

/-! ### Neighbours that merge -/

/-- Tokens of the kind are words. -/
def Kind.isWord (k : Kind) : Bool :=
  k == .keyword || k == .identifier

/-- The token **merges** with one after it: a word with a word or a literal, and a literal with
a literal. -/
def Token.merges (a b : Token) : Bool :=
  a.kind.isWord && (b.kind.isWord || b.kind == .literal) ||
    a.kind == .literal && b.kind == .literal

/-- No token of the list merges with the one after it. -/
def Separable (ts : List Token) : Prop :=
  ∀ before a b after, ts = before ++ a :: b :: after → a.merges b = false

/-- Nothing has no neighbours. -/
theorem separable_nil : Separable [] := by
  intro before a b after h
  exact absurd h (by simp)

/-- The first token may not merge with the one after it, nor any other with its own. -/
theorem separable_cons_iff {t : Token} {ts : List Token} :
    Separable (t :: ts) ↔ (∀ b ∈ ts.head?, t.merges b = false) ∧ Separable ts := by
  constructor
  · intro h
    refine ⟨?_, ?_⟩
    · intro b hb
      obtain ⟨after, rfl⟩ : ∃ after, ts = b :: after := List.head?_eq_some_iff.mp hb
      exact h [] t b after rfl
    · intro before a b after heq
      exact h (t :: before) a b after (by rw [heq]; rfl)
  · rintro ⟨hfirst, hrest⟩ before a b after heq
    cases before with
    | nil =>
        obtain ⟨rfl, rfl⟩ := List.cons.inj heq
        exact hfirst b rfl
    | cons t' before => exact hrest before a b after (List.cons.inj heq).2

/-- A character is of the class that it is known to be of, and of no other. -/
theorem CharClass.holds_eq_beq {k : CharClass} {c : Char} (h : k.holds c = true)
    (k' : CharClass) : k'.holds c = (k' == k) := by
  by_cases hk : k' = k
  · rw [hk, h]
    simp
  · rw [holds_eq_false h k' hk]
    simpa using hk

/-- Lexemes of the class go on with the characters that start lexemes of another. -/
def CharClass.meets : CharClass → CharClass → Bool
  | letter, letter | letter, digit | digit, digit => true
  | _, _ => false

/-- Whether a character continues a lexeme is decided by its class, if it has one. -/
theorem CharClass.continues_eq_meets {k : CharClass} {c : Char} (h : k.holds c = true)
    (k' : CharClass) : k'.continues c = k'.meets k := by
  have hu : c ≠ '_' := by
    rintro rfl
    have hmem := mem_classes_iff.mpr h
    rw [classes_underscore] at hmem
    exact absurd hmem (by simp)
  have hl : isLetter c = (letter == k) := holds_eq_beq h letter
  have hd : isDigit c = (digit == k) := holds_eq_beq h digit
  cases k' <;> cases k <;> simp_all [continues, meets, holds, isWordChar]

/-- The words are the lexemes that start with a letter. -/
theorem Lexeme.isWord_kind_token (l : Lexeme) : l.token.kind.isWord = (l.start == .letter) := by
  obtain ⟨k, cs⟩ := l
  cases k with
  | letter =>
      simp only [token, wordToken]
      split <;> rfl
  | digit => rfl
  | operator => rfl
  | punctuation => rfl

/-- A lexeme whose token is a keyword or an identifier starts with a letter. -/
theorem Lexeme.start_eq_letter_of_isWord {l : Lexeme} (h : l.token.kind.isWord = true) :
    l.start = .letter := by
  simpa [isWord_kind_token] using h

/-- The literals are the lexemes that start with a digit. -/
theorem Lexeme.kind_token_beq_literal (l : Lexeme) :
    (l.token.kind == .literal) = (l.start == .digit) := by
  obtain ⟨k, cs⟩ := l
  cases k with
  | letter =>
      simp only [token, wordToken]
      split <;> rfl
  | digit => rfl
  | operator => rfl
  | punctuation => rfl

/-- The kind of a token tells how its lexeme starts. -/
theorem Lexeme.start_eq_of_kind_eq {l m : Lexeme} (h : l.token.kind = m.token.kind) :
    l.start = m.start := by
  have hword := l.isWord_kind_token
  have hdigit := l.kind_token_beq_literal
  rw [h, isWord_kind_token] at hword
  rw [h, kind_token_beq_literal] at hdigit
  obtain ⟨k, cs⟩ := l
  obtain ⟨k', cs'⟩ := m
  cases k <;> cases k' <;> simp_all [token]

/-- Whether two tokens merge is decided by how their lexemes start. -/
theorem Lexeme.merges_token (l m : Lexeme) : l.token.merges m.token = l.start.meets m.start := by
  rw [Token.merges, isWord_kind_token, isWord_kind_token, kind_token_beq_literal,
    kind_token_beq_literal]
  cases l.start <;> cases m.start <;> rfl

/-- A lexeme ends before another one exactly if their tokens do not merge. -/
theorem Lexeme.endsBefore_append_iff {l m : Lexeme} (hm : m.WellFormed) (cs : List Char) :
    l.EndsBefore (m.chars ++ cs) ↔ l.token.merges m.token = false := by
  obtain ⟨c, tail, hchars, hc, -⟩ := hm
  rw [merges_token, ← CharClass.continues_eq_meets hc, hchars]
  simp [EndsBefore]

/-- One lexeme more is munched exactly if it is well formed and ends before the others. -/
theorem munch_cons_iff {l : Lexeme} {ls : List Lexeme} {cs rest : List Char} :
    Munch (l.chars ++ cs) (l :: ls) rest ↔ l.WellFormed ∧ l.EndsBefore cs ∧ Munch cs ls rest := by
  constructor
  · intro h
    obtain ⟨cs', hf, hm⟩ := h.cons_inv
    obtain ⟨hw, he, happ⟩ := first?_eq_some_iff.mp hf
    obtain rfl : cs' = cs := List.append_cancel_left happ
    exact ⟨hw, he, hm⟩
  · rintro ⟨hw, he, hm⟩
    exact Munch.cons hw he hm

/-- **Lexemes written together** are taken apart as they were exactly if no two neighbours
merge. -/
theorem munch_joined_iff {ls : List Lexeme} (h : ∀ l ∈ ls, l.WellFormed) :
    Munch (joined ls) ls [] ↔ Separable (ls.map token) := by
  induction ls with
  | nil => exact ⟨fun _ => separable_nil, fun _ => Munch.nil []⟩
  | cons l ls ih =>
      have hl : l.WellFormed := h l (by simp)
      have hls := ih fun m hm => h m (by simp [hm])
      have hends : l.EndsBefore (joined ls) ↔
          ∀ b ∈ (ls.map token).head?, l.token.merges b = false := by
        cases ls with
        | nil => simp [EndsBefore]
        | cons m ls => simp [endsBefore_append_iff (h m (by simp))]
      rw [joined_cons, munch_cons_iff, hls, hends, List.map_cons, separable_cons_iff]
      exact and_iff_right hl

/-- No two neighbours among the tokens of a text that is munched whole merge. -/
theorem Munch.separable {cs : List Char} {ls : List Lexeme} (h : Munch cs ls []) :
    Separable (ls.map token) := by
  rw [← munch_joined_iff h.wellFormed, h.joined_eq]
  exact h

/-! ### Rivals -/

/-- Lexemes that make the tokens of verbatim lexemes take no more characters than these. -/
theorem length_joined_le {ls ls' : List Lexeme} (h : ∀ l ∈ ls, l.Verbatim)
    (ht : ls'.map token = ls.map token) : (joined ls').length ≤ (joined ls).length := by
  induction ls generalizing ls' with
  | nil =>
      obtain rfl : ls' = [] := List.map_eq_nil_iff.mp ht
      exact Nat.le_refl _
  | cons l ls ih =>
      obtain ⟨l', ls', rfl, htok, hrest⟩ := List.map_eq_cons_iff.mp ht
      have hle := ih (fun m hm => h m (by simp [hm])) hrest
      have hl := l'.length_le_length_text
      rw [htok, (h l (by simp)).text_eq] at hl
      rw [length_joined_cons, length_joined_cons]
      exact Nat.add_le_add hl hle

/-- **Verbatim lexemes have no rivals**: other lexemes that make the same tokens are words in
lower case somewhere. As upper-casing makes no word shorter, they can have the same characters
only if each of them has as many as its rival. -/
theorem eq_of_map_token_eq {ls ls' : List Lexeme} (h : ∀ l ∈ ls, l.Verbatim)
    (ht : ls'.map token = ls.map token) (hj : joined ls' = joined ls) : ls' = ls := by
  induction ls generalizing ls' with
  | nil => exact List.map_eq_nil_iff.mp ht
  | cons l ls ih =>
      obtain ⟨l', ls', rfl, htok, hrest⟩ := List.map_eq_cons_iff.mp ht
      have hls : ∀ m ∈ ls, m.Verbatim := fun m hm => h m (by simp [hm])
      have hle := length_joined_le hls hrest
      have hl := l'.length_le_length_text
      rw [htok, (h l (by simp)).text_eq] at hl
      have hlen : l'.chars.length = l.chars.length := by
        have hsum := congrArg List.length hj
        rw [length_joined_cons, length_joined_cons] at hsum
        simp only [Lexeme.length] at hl hsum
        omega
      obtain ⟨hchars, hjoined⟩ := List.append_inj hj hlen
      have hstart := start_eq_of_kind_eq (congrArg Token.kind htok)
      obtain ⟨start', chars'⟩ := l'
      obtain ⟨start, chars⟩ := l
      obtain rfl : start' = start := hstart
      obtain rfl : chars' = chars := hchars
      rw [ih hls hrest hjoined]

namespace Scanner

/-- **Spelling, then scanning.** The texts of canonical tokens, written one after the other,
scan to these tokens exactly if no token merges with the one after it. -/
theorem tokenize_spelled_eq_ok_iff {ts : List Token} (h : ∀ t ∈ ts, t.isCanonical = true) :
    (ofQuery (spelled ts)).tokenize.1 = .ok (ts ++ [.endMark]) ↔ Separable ts := by
  obtain ⟨ls, rfl, hls⟩ := exists_verbatim h
  have hrest : (ofQuery (spelled (ls.map token))).rest = joined ls := toList_spelled hls
  rw [← munch_joined_iff fun l hl => (hls l hl).wellFormed, tokenize_eq_ok_iff_munch, hrest]
  constructor
  · rintro ⟨ls', hm, heq⟩
    have htok : ls'.map token = ls.map token := (List.append_cancel_right heq).symm
    have hjoin : joined ls' = joined ls := by simpa using hm.joined_append
    rwa [eq_of_map_token_eq hls htok hjoin] at hm
  · intro hm
    exact ⟨ls, hm, rfl⟩

/-- A number and a word after it are two tokens again; the same word and the number after it
are one. -/
theorem tokenize_spelled_number_and_word :
    (∀ t ∈ [(⟨.literal, "12"⟩ : Token), ⟨.identifier, "AB"⟩], t.isCanonical = true) ∧
    (ofQuery (spelled [⟨.literal, "12"⟩, ⟨.identifier, "AB"⟩])).tokenize.1 =
      .ok [⟨.literal, "12"⟩, ⟨.identifier, "AB"⟩, .endMark] ∧
    (ofQuery (spelled [⟨.identifier, "AB"⟩, ⟨.literal, "12"⟩])).tokenize.1 ≠
      .ok [⟨.identifier, "AB"⟩, ⟨.literal, "12"⟩, .endMark] := by
  have hnumber : Token.isCanonical ⟨.literal, "12"⟩ = true := by decide +kernel
  have hword : Token.isCanonical ⟨.identifier, "AB"⟩ = true := by decide +kernel
  refine ⟨by simp [hnumber, hword], ?_, ?_⟩
  · refine (tokenize_spelled_eq_ok_iff (by simp [hnumber, hword])).mpr ?_
    simp [separable_cons_iff, separable_nil, Token.merges, Kind.isWord]
  · intro h
    have := (tokenize_spelled_eq_ok_iff (by simp [hnumber, hword])).mp h
    simp [separable_cons_iff, Token.merges, Kind.isWord] at this

end Scanner

end QueryScan
