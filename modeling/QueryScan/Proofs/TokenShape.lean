import QueryScan.Proofs.NormalForm
import QueryScan.Text.Blank
import QueryScan.Text.Quoted

/-!
# The Shape of a Token

Words are upper-cased after their characters have been looked at, so what a token shows of a word
has been looked at by nobody: the upper case of a letter need not be a letter. This module says
what it can be. Over ASCII it is what a word in capitals is made of, and beyond ASCII it is at
least no character that would break the line, the field or the quotation in which the text of a
token is shown.

A token is **shaped** if its text is what its kind asks for. Every token that a scanner hands out
is shaped, whatever it has been asked before; and as no text is asked for by two kinds, the text
of such a token tells its kind.

## Conventions

`isControl` are the control characters of both blocks, `isBlank` the white space of all scripts,
and `isQuoting` the quotation marks of ASCII and the backslash. A character of one of the three
sorts is **harmful** in a text that is shown as it is.

## Main results

* `harmless_of_mem_upperChar`: what the characters of words are upper-cased to.
* `Lexeme.WellFormed.shaped_token`: the token of a lexeme is shaped.
* `Token.Shaped.kind_eq_ofText`: the text of a shaped token tells its kind.
* `Scanner.shaped_of_handsOut`: **every token that is handed out** is shaped, and its text has no
  harmful character.
-/

namespace QueryScan

open Lexeme

/-! ### Harmful characters -/

/-- A control character, before the blank or after the visible characters of ASCII. -/
def isControl (c : Char) : Bool :=
  decide (c.toNat < 0x20) || decide (0x7F ≤ c.toNat) && decide (c.toNat ≤ 0x9F)

/-- A quotation mark, straight or slanted, or the backslash. -/
def isQuoting (c : Char) : Bool :=
  c == doubleQuote || c == singleQuote || c == '\x60' || c == '\\'

/-- A character that would break the line or the quotation in which it is shown as it is. -/
def isHarmful (c : Char) : Bool :=
  isControl c || isBlank c || isQuoting c

/-- A blank is one of the characters that the table of blanks lists. -/
theorem mem_blanks_of_isBlank {c : Char} (h : isBlank c = true) :
    c.toNat ∈ blanks.toList.flatMap Span.members := by
  obtain ⟨span, hmem, hcovers⟩ := (RangeMap.contains_iff blanks_ordered).mp h
  exact List.mem_flatMap.mpr ⟨span, hmem, Span.mem_members_iff.mpr hcovers⟩

/-- The control characters and the quotation marks have code points below `A0`. -/
theorem lt_or_isBlank_of_isHarmful {c : Char} (h : isHarmful c = true) :
    c.toNat < 0xA0 ∨ isBlank c = true := by
  rw [isHarmful, Bool.or_eq_true, Bool.or_eq_true] at h
  rcases h with (h | h) | h
  · simp only [isControl, Bool.or_eq_true, Bool.and_eq_true, decide_eq_true_eq] at h
    exact Or.inl (by omega)
  · exact Or.inr h
  · simp only [isQuoting, Bool.or_eq_true, beq_iff_eq] at h
    rcases h with ((rfl | rfl) | rfl) | rfl <;> exact Or.inl (by decide)

/-- So there are not many harmful characters. -/
theorem mem_candidates_of_isHarmful {c : Char} (h : isHarmful c = true) :
    c.toNat ∈ List.range 0xA0 ++ blanks.toList.flatMap Span.members := by
  rcases lt_or_isBlank_of_isHarmful h with hlt | hblank
  · exact List.mem_append_left _ (List.mem_range.mpr hlt)
  · exact List.mem_append_right _ (mem_blanks_of_isBlank hblank)

/-- **Harmful characters are foreign** to queries. -/
theorem foreign_of_isHarmful {c : Char} (h : isHarmful c = true) : Foreign c := by
  have hall : ((List.range 0xA0 ++ blanks.toList.flatMap Span.members).all fun n =>
      !isHarmful (Char.ofNat n) || (classes (Char.ofNat n)).isEmpty && Char.ofNat n != '_') =
        true := by
    decide +kernel
  have hc := List.all_eq_true.mp hall c.toNat (mem_candidates_of_isHarmful h)
  rw [Char.ofNat_toNat, h] at hc
  obtain ⟨hclasses, hu⟩ : classes c = [] ∧ c ≠ '_' := by simpa using hc
  exact (classes_eq_nil_iff.mp hclasses).resolve_right hu

/-- A character that is not foreign is not harmful. -/
theorem isHarmful_eq_false_of_not_foreign {c : Char} (h : ¬Foreign c) : isHarmful c = false :=
  Bool.eq_false_iff.mpr fun hc => h (foreign_of_isHarmful hc)

/-! ### What words are upper-cased to -/

/-- A character of words in capitals: a capital of ASCII, a digit of ASCII, or the underscore. -/
def isCapital (c : Char) : Bool :=
  c.isUpper || c.isDigit || c == '_'

/-- A character of words is not foreign. -/
theorem not_foreign_of_isWordChar {c : Char} (h : isWordChar c = true) : ¬Foreign c := by
  intro hf
  have hnot : isWordChar c = false := CharClass.continues_of_foreign hf .letter
  exact absurd h (by simp [hnot])

/-- The characters of words in capitals are characters of words. -/
theorem isWordChar_of_isCapital {c : Char} (h : isCapital c = true) : isWordChar c = true := by
  rw [isCapital, Bool.or_eq_true, Bool.or_eq_true, beq_iff_eq] at h
  rcases h with (h | h) | rfl
  · have hl : isLetter c = true := isLetter_of_isAlpha (Bool.or_eq_true_iff.mpr (Or.inl h))
    simp [isWordChar, hl]
  · simp [isWordChar, isDigit_of_isDigit h]
  · simp [isWordChar]

/-- No upper case in the table has a harmful character, and of ASCII it has those of words in
capitals only. -/
theorem harmless_of_mem_caseTable {c d : Char} {cs : List Char} (h : (c, cs) ∈ caseTable)
    (hd : d ∈ cs) : isHarmful d = false ∧ (d.toNat < 128 → isCapital d = true) := by
  have hall : (caseTable.all fun entry => entry.2.all fun d =>
      decide (0xA0 ≤ d.toNat) && !isBlank d || isCapital d) = true := by
    decide +kernel
  have hentry := List.all_eq_true.mp (List.all_eq_true.mp hall (c, cs) h) d hd
  obtain ⟨hge, hblank⟩ | hcapital :
      (0xA0 ≤ d.toNat ∧ isBlank d = false) ∨ isCapital d = true := by
    simpa using hentry
  · refine ⟨Bool.eq_false_iff.mpr ?_, fun hlt => absurd hlt (by omega)⟩
    intro hharm
    rcases lt_or_isBlank_of_isHarmful hharm with hlt | hblank'
    · omega
    · exact absurd hblank' (by simp [hblank])
  · have hword := not_foreign_of_isWordChar (isWordChar_of_isCapital hcapital)
    exact ⟨isHarmful_eq_false_of_not_foreign hword, fun _ => hcapital⟩

/-- A character of words that is its own upper case is of words in capitals, if it is of ASCII. -/
theorem isCapital_of_upperChar_self {c : Char} (hself : upperChar c = [c])
    (hc : isWordChar c = true) (hlt : c.toNat < 128) : isCapital c = true := by
  have hall : ∀ n < 128, upperChar (Char.ofNat n) = [Char.ofNat n] →
      isWordChar (Char.ofNat n) = true → isCapital (Char.ofNat n) = true := by
    decide +kernel
  have hchar := hall c.toNat hlt
  rw [Char.ofNat_toNat] at hchar
  exact hchar hself hc

/-- **A character of words** is upper-cased to harmless characters, and to those of words in
capitals where they are of ASCII. -/
theorem harmless_of_mem_upperChar {c d : Char} (hc : isWordChar c = true) (hd : d ∈ upperChar c) :
    isHarmful d = false ∧ (d.toNat < 128 → isCapital d = true) := by
  rcases mem_upperChar_cases hd with ⟨rfl, hself⟩ | ⟨cs, hmem, hd⟩
  · exact ⟨isHarmful_eq_false_of_not_foreign (not_foreign_of_isWordChar hc),
      isCapital_of_upperChar_self hself hc⟩
  · exact harmless_of_mem_caseTable hmem hd

/-! ### Shaped tokens -/

/-- A text is a **word in upper case** if it is its own upper case, begins with a character that
begins neither a token of another kind nor the tail of a word, and has no characters of ASCII but
those of words in capitals. -/
structure UpperWord (cs : List Char) : Prop where
  /-- Upper-casing leaves it as it is. -/
  upperCase_eq : upperCase cs = cs
  /-- It has a first character, which is no digit, no underscore and no sign. -/
  head : ∃ c ∈ cs.head?, isDigit c = false ∧ c ≠ '_' ∧ isOperator c = false ∧
    isPunctuation c = false
  /-- Of ASCII it has capitals, digits and underscores only. -/
  ascii : ∀ c ∈ cs, c.toNat < 128 → c.isUpper = true ∨ c.isDigit = true ∨ c = '_'

/-- A token is **shaped** if its text is what its kind asks for. White space and comments are no
kinds of tokens in a scan. -/
def Token.Shaped (t : Token) : Prop :=
  match t.kind with
  | .keyword => t.text ∈ keywords ∧ UpperWord t.text.toList
  | .identifier => t.text ∉ keywords ∧ UpperWord t.text.toList
  | .literal => t.text ≠ "" ∧ ∀ c ∈ t.text.toList, isDigit c = true
  | .operator => ∃ c, t.text.toList = [c] ∧ isOperator c = true
  | .punctuation => ∃ c, t.text.toList = [c] ∧ isPunctuation c = true
  | .whitespace | .comment => False
  | .endMark => t.text = ""

/-- The kind of the shaped tokens with a text: the first character tells the literals and the signs,
and the table of reserved words tells the others. -/
def Kind.ofText (s : String) : Kind :=
  match s.toList with
  | [] => .endMark
  | c :: _ =>
    if isDigit c then .literal
    else if isOperator c then .operator
    else if isPunctuation c then .punctuation
    else if isKeyword s then .keyword
    else .identifier

/-- A text that begins with no digit and no sign is a keyword or an identifier. -/
theorem UpperWord.kind_ofText {s : String} (h : UpperWord s.toList) :
    Kind.ofText s = if isKeyword s then .keyword else .identifier := by
  obtain ⟨c, hc, hd, -, ho, hp⟩ := h.head
  obtain ⟨cs, htext⟩ := List.head?_eq_some_iff.mp hc
  rw [Kind.ofText, htext]
  simp only [hd, ho, hp]
  rfl

/-- **The text of a shaped token tells its kind.** -/
theorem Token.Shaped.kind_eq_ofText {t : Token} (h : t.Shaped) : t.kind = Kind.ofText t.text := by
  obtain ⟨kind, text⟩ := t
  cases kind with
  | keyword =>
      obtain ⟨hmem, hw⟩ := h
      have hk : isKeyword text = true := by simpa [isKeyword] using hmem
      rw [hw.kind_ofText, if_pos hk]
  | identifier =>
      obtain ⟨hmem, hw⟩ := h
      have hk : ¬isKeyword text = true := by simpa [isKeyword] using hmem
      rw [hw.kind_ofText, if_neg hk]
  | literal =>
      obtain ⟨hne, hdigits⟩ := h
      have hlist : text.toList ≠ [] := fun hnil => hne (String.toList_inj.mp hnil)
      obtain ⟨c, cs, htext⟩ := List.exists_cons_of_ne_nil hlist
      have hc : isDigit c = true := hdigits c (by simp [htext])
      simp only [Kind.ofText, htext, hc, if_pos]
  | operator =>
      obtain ⟨c, htext, hc⟩ := h
      have hd : isDigit c = false := CharClass.holds_eq_false (k := .operator) hc .digit (by simp)
      simp [Kind.ofText, show text.toList = [c] from htext, hc, hd]
  | punctuation =>
      obtain ⟨c, htext, hc⟩ := h
      have hother := CharClass.holds_eq_false (k := .punctuation) hc
      have hd : isDigit c = false := hother .digit (by simp)
      have ho : isOperator c = false := hother .operator (by simp)
      simp [Kind.ofText, show text.toList = [c] from htext, hc, hd, ho]
  | whitespace => exact h.elim
  | comment => exact h.elim
  | endMark =>
      obtain rfl : text = "" := h
      rfl

/-- Among shaped tokens the end mark is the one without a text. -/
theorem Token.Shaped.text_eq_empty_iff {t : Token} (h : t.Shaped) :
    t.text = "" ↔ t.kind = .endMark := by
  constructor
  · intro htext
    rw [h.kind_eq_ofText, htext]
    rfl
  · intro hk
    rwa [Token.Shaped, hk] at h

/-! ### Tokens of lexemes -/

namespace Lexeme

/-- The text of a word, as its token has it, is a word in upper case. -/
theorem WellFormed.upperWord {l : Lexeme} (h : l.WellFormed) (hs : l.start = .letter) :
    UpperWord l.token.text.toList where
  upperCase_eq := by
    rw [l.toList_token_text, if_pos hs, upperCase_upperCase]
  head := by
    obtain ⟨c, cs, htext, hc⟩ := h.exists_head_text
    refine ⟨c, by rw [htext]; rfl, ?_⟩
    rcases hc with hc | ⟨-, hd, ho, hp, hu⟩
    · have hother := CharClass.holds_eq_false hc
      rw [hs] at hother
      exact ⟨hother .digit (by simp), (CharClass.not_foreign_of_holds hc).2,
        hother .operator (by simp), hother .punctuation (by simp)⟩
    · exact ⟨hd, hu, ho, hp⟩
  ascii := by
    intro c hc hlt
    rw [l.toList_token_text, if_pos hs] at hc
    obtain ⟨d, hd, hupper⟩ := List.mem_flatMap.mp hc
    have hcapital := (harmless_of_mem_upperChar (h.isWordChar_of_mem hs hd) hupper).2 hlt
    simpa [isCapital, or_assoc] using hcapital

/-- The text of a token of a well-formed lexeme has no harmful character. -/
theorem WellFormed.isHarmful_eq_false {l : Lexeme} (h : l.WellFormed) {c : Char}
    (hc : c ∈ l.token.text.toList) : isHarmful c = false := by
  rw [l.toList_token_text] at hc
  by_cases hs : l.start = .letter
  · rw [if_pos hs] at hc
    obtain ⟨d, hd, hupper⟩ := List.mem_flatMap.mp hc
    exact (harmless_of_mem_upperChar (h.isWordChar_of_mem hs hd) hupper).1
  · rw [if_neg hs] at hc
    exact isHarmful_eq_false_of_not_foreign (h.not_foreign hc)

/-- A lexeme of a class that nothing continues is one character of the class. -/
theorem WellFormed.exists_single {k : CharClass} {cs : List Char} (h : WellFormed ⟨k, cs⟩)
    (hk : k.continues = fun _ => false) : ∃ c, cs = [c] ∧ k.holds c = true := by
  have hsingle := (wellFormed_single_iff hk).mp h
  rw [isSingle, Bool.and_eq_true, beq_iff_eq] at hsingle
  obtain ⟨c, rfl⟩ := List.length_eq_one_iff.mp hsingle.1
  exact ⟨c, rfl, by simpa using hsingle.2⟩

/-- **The token of a lexeme** is shaped. One case for each class of first characters. -/
theorem WellFormed.shaped_token {l : Lexeme} (h : l.WellFormed) : l.token.Shaped := by
  obtain ⟨start, cs⟩ := l
  cases start with
  | letter =>
      have hw := h.upperWord rfl
      simp only [token, wordToken] at hw ⊢
      cases hk : isKeyword (String.ofList (upperCase cs)) with
      | true =>
          have hmem : String.ofList (upperCase cs) ∈ keywords := by simpa [isKeyword] using hk
          exact ⟨hmem, hw⟩
      | false =>
          have hmem : String.ofList (upperCase cs) ∉ keywords := by simpa [isKeyword] using hk
          exact ⟨hmem, hw⟩
  | digit =>
      refine ⟨h.token_text_ne_empty, ?_⟩
      intro c hc
      rw [toList_token_text, if_neg (by simp)] at hc
      exact h.holds_of_mem (by simp) hc
  | operator =>
      obtain ⟨c, rfl, hc⟩ := h.exists_single rfl
      exact ⟨c, String.toList_ofList, hc⟩
  | punctuation =>
      obtain ⟨c, rfl, hc⟩ := h.exists_single rfl
      exact ⟨c, String.toList_ofList, hc⟩

end Lexeme

namespace Scanner

/-! ### Tokens that are handed out -/

/-- The tokens in a reply. -/
def Reply.tokens : Reply → List Token
  | next (.ok t) => [t]
  | tokenize (.ok ts) => ts
  | _ => []

/-- A scanner of the query **hands out** the token: it is in the reply to some call, after any
calls before it. -/
def HandsOut (query : String) (t : Token) : Prop :=
  ∃ calls, ∃ p ∈ (ofQuery query).session calls, t ∈ p.1.tokens

/-- The tokens in the reply to a call are the end mark and tokens of well-formed lexemes. -/
theorem eq_endMark_or_exists_lexeme_of_answer {s : Scanner} {call : Call} {t : Token}
    (h : t ∈ (s.answer call).1.tokens) :
    t = .endMark ∨ ∃ l : Lexeme, l.WellFormed ∧ l.token = t := by
  cases call with
  | next =>
      change t ∈ (Reply.next s.next.1).tokens at h
      rcases s.next_cases with ⟨l, rest, hf, hn⟩ | ⟨-, hn⟩ | ⟨c, cs, -, -, hn⟩
      · rw [hn] at h
        exact Or.inr ⟨l, wellFormed_of_first? hf, (List.mem_singleton.mp h).symm⟩
      · rw [hn] at h
        exact Or.inl (List.mem_singleton.mp h)
      · rw [hn] at h
        exact absurd h (by simp [Reply.tokens])
  | tokenize =>
      change t ∈ (Reply.tokenize s.tokenize.1).tokens at h
      cases hts : s.tokenize.1 with
      | error r =>
          rw [hts] at h
          exact absurd h (by simp [Reply.tokens])
      | ok ts =>
          rw [hts] at h
          obtain ⟨ls, hm, rfl⟩ := tokenize_eq_ok_iff_munch.mp hts
          rcases List.mem_append.mp h with h | h
          · obtain ⟨l, hl, rfl⟩ := List.mem_map.mp h
            exact Or.inr ⟨l, hm.wellFormed l hl, rfl⟩
          · exact Or.inl (List.mem_singleton.mp h)
  | position => exact absurd h (by simp [answer, Reply.tokens])

/-- The same of all replies to some calls. -/
theorem eq_endMark_or_exists_lexeme {s : Scanner} {calls : List Call} {p : Reply × Nat}
    (hp : p ∈ s.session calls) {t : Token} (ht : t ∈ p.1.tokens) :
    t = .endMark ∨ ∃ l : Lexeme, l.WellFormed ∧ l.token = t := by
  induction calls generalizing s with
  | nil => exact absurd hp (by simp)
  | cons call calls ih =>
      rw [session_cons] at hp
      rcases List.mem_cons.mp hp with rfl | hp
      · exact eq_endMark_or_exists_lexeme_of_answer ht
      · exact ih hp

/-- A token that is handed out is shaped, and has no harmful character. -/
theorem HandsOut.shaped {query : String} {t : Token} (h : HandsOut query t) :
    t.Shaped ∧ ∀ c ∈ t.text.toList, isHarmful c = false := by
  obtain ⟨calls, p, hp, ht⟩ := h
  rcases eq_endMark_or_exists_lexeme hp ht with rfl | ⟨l, hl, rfl⟩
  · exact ⟨rfl, by simp [Token.endMark]⟩
  · exact ⟨hl.shaped_token, fun c hc => hl.isHarmful_eq_false hc⟩

/-- **Every token that is handed out.** Let a scanner of a query hand out a token, for a call for
the next token or for all of them, after any other calls.

* The token is shaped: it is no white space and no comment, and its text is what its kind asks for.
* Its text is empty exactly if it is the end mark.
* Its text has no control character, no white space, no quotation mark and no backslash.
* A token that a scanner of any query hands out with the same text is of the same kind. -/
theorem shaped_of_handsOut {query : String} {t : Token} (h : HandsOut query t) :
    t.Shaped ∧ (t.text = "" ↔ t.kind = .endMark) ∧
    (∀ c ∈ t.text.toList, isControl c = false ∧ isBlank c = false ∧ isQuoting c = false) ∧
    ∀ query' u, HandsOut query' u → u.text = t.text → u.kind = t.kind := by
  obtain ⟨hshaped, hharmless⟩ := h.shaped
  refine ⟨hshaped, hshaped.text_eq_empty_iff, ?_, ?_⟩
  · intro c hc
    have hc := hharmless c hc
    rw [isHarmful, Bool.or_eq_false_iff, Bool.or_eq_false_iff] at hc
    exact ⟨hc.1.1, hc.1.2, hc.2⟩
  · intro query' u hu htext
    rw [hu.shaped.1.kind_eq_ofText, htext, hshaped.kind_eq_ofText]

/-- The letter `ŉ` is upper-cased to two characters, of which one is no apostrophe of ASCII; no
scanner hands them out but as an identifier. -/
theorem shaped_of_handsOut_apostrophe :
    HandsOut "ŉ" ⟨.identifier, "\u02bcN"⟩ ∧ Token.Shaped ⟨.identifier, "\u02bcN"⟩ ∧
    (∀ c ∈ "\u02bcN".toList, isQuoting c = false) ∧
    ∀ query u, HandsOut query u → u.text = "\u02bcN" → u.kind = .identifier := by
  have hf : first? "ŉ".toList = some (⟨.letter, ['ŉ']⟩, []) := by decide +kernel
  have htoken : token ⟨.letter, ['ŉ']⟩ = ⟨.identifier, "\u02bcN"⟩ := by decide +kernel
  have hnext : (ofQuery "ŉ").next.1 = .ok ⟨.identifier, "\u02bcN"⟩ := by
    rw [next_of_first? (s := ofQuery "ŉ") hf, htoken]
  have hout : HandsOut "ŉ" ⟨.identifier, "\u02bcN"⟩ := by
    refine ⟨[.next], _, List.mem_singleton_self _, ?_⟩
    change _ ∈ (Reply.next (ofQuery "ŉ").next.1).tokens
    rw [hnext]
    exact List.mem_singleton_self _
  obtain ⟨hshaped, -, hharmless, hkind⟩ := shaped_of_handsOut hout
  exact ⟨hout, hshaped, fun c hc => (hharmless c hc).2.2, hkind⟩

end Scanner

end QueryScan
