import QueryScan.Proofs.CaseTable
import QueryScan.Proofs.CheckBeforeScan
import QueryScan.Proofs.Concatenation
import QueryScan.Proofs.Restart

/-!
# The Normal Form of a Query

The texts of the tokens of a query, one after the other, are its normal form: the query with its
words in upper case. Scanning the normal form gives the same tokens, unless the upper case of some
word is no word. That happens to letters that are upper-cased to a letter and a combining mark:
`ǰ` becomes `J` and a caron, which is foreign to queries, so the normal form is rejected at the
caron.

The borders of the tokens survive. Upper-casing a word twice is upper-casing it once, so each
token is spelled as a scan would spell it; and the first character of a word is upper-cased to a
letter first, or to a foreign character, so a token that ends before the word ends before its
upper case too.

## Main results

* `munch_spelled`, `exists_munch_of_firstStray`: what the normal form is munched to, up to its end
  or up to the first stray character.
* `Scanner.tokenize_spelled_of_tokenize`: **scanning the normal form** gives the same tokens, or
  rejects the first stray character.
-/

namespace QueryScan

open Lexeme

/-! ### Stray characters -/

/-- A token is **plain** if it is no word, or a word whose text has letters, digits and `_`
only. -/
def Token.Plain (t : Token) : Prop :=
  t.kind.isWord = true → ∀ c ∈ t.text.toList, isWordChar c = true

/-- `FirstStray ts r`: the character of `r` is the first in the text of a keyword or an identifier
that is neither a letter nor a digit nor `_`, and the position of `r` is its index in the texts of
the tokens, one after the other. -/
inductive FirstStray : List Token → Rejection → Prop
  | here {t : Token} {ts : List Token} {before after : List Char} {c : Char} :
      t.kind.isWord = true → t.text.toList = before ++ c :: after →
      (∀ d ∈ before, isWordChar d = true) → isWordChar c = false →
      FirstStray (t :: ts) ⟨c, before.length⟩
  | there {t : Token} {ts : List Token} {r : Rejection} :
      t.Plain → FirstStray ts r → FirstStray (t :: ts) (r.shift t.text.length)

/-- All tokens are plain, or there is a first stray character. -/
theorem plain_or_firstStray (ts : List Token) :
    (∀ t ∈ ts, t.Plain) ∨ ∃ r, FirstStray ts r := by
  induction ts with
  | nil => exact Or.inl (by simp)
  | cons t ts ih =>
      by_cases ht : t.Plain
      · rcases ih with hall | ⟨r, hr⟩
        · exact Or.inl (List.forall_mem_cons.mpr ⟨ht, hall⟩)
        · exact Or.inr ⟨_, FirstStray.there ht hr⟩
      · obtain ⟨hk, d, hd, hstray⟩ : t.kind.isWord = true ∧
            ∃ d ∈ t.text.toList, ¬isWordChar d = true := by
          simpa only [Token.Plain, Classical.not_imp, Classical.not_forall, exists_prop] using ht
        have hfind : (t.text.toList.find? fun c => !isWordChar c).isSome = true :=
          List.find?_isSome.mpr ⟨d, hd, by simpa using hstray⟩
        obtain ⟨c, hc⟩ := Option.isSome_iff_exists.mp hfind
        obtain ⟨hword, before, after, htext, hbefore⟩ := List.find?_eq_some_iff_append.mp hc
        refine Or.inr ⟨_, FirstStray.here hk htext ?_ (by simpa using hword)⟩
        intro e he
        simpa using hbefore e he

/-- Characters up to the first one for which a condition fails, and the others. -/
theorem takeWhile_dropWhile_eq {p : Char → Bool} {before : List Char} {c : Char}
    (hbefore : ∀ d ∈ before, p d = true) (hc : p c = false) (after : List Char) :
    (before ++ c :: after).takeWhile p = before ∧
      (before ++ c :: after).dropWhile p = c :: after := by
  rw [List.takeWhile_append_of_pos hbefore, List.dropWhile_append_of_pos hbefore]
  simp [hc]

/-- There is one first stray character at most. -/
theorem FirstStray.unique {ts : List Token} {r r' : Rejection} (h : FirstStray ts r)
    (h' : FirstStray ts r') : r = r' := by
  induction h generalizing r' with
  | @here t ts before after c hk htext hbefore hc =>
      cases h' with
      | @here _ _ _ after' _ _ htext' hbefore' hc' =>
          obtain ⟨htake, hdrop⟩ := takeWhile_dropWhile_eq hbefore hc after
          obtain ⟨htake', hdrop'⟩ := takeWhile_dropWhile_eq hbefore' hc' after'
          rw [← htext, htext'] at htake hdrop
          rw [← htake, htake', (List.cons.inj (hdrop.symm.trans hdrop')).1]
      | there hplain _ => exact absurd (hplain hk c (by simp [htext])) (by simp [hc])
  | there hplain _ ih =>
      cases h' with
      | @here _ _ _ _ c hk htext _ hc =>
          exact absurd (hplain hk c (by simp [htext])) (by simp [hc])
      | there _ hr' => rw [ih hr']

/-- Tokens added at the end leave the first stray character where it is. -/
theorem FirstStray.append {ts : List Token} {r : Rejection} (h : FirstStray ts r)
    (us : List Token) : FirstStray (ts ++ us) r := by
  induction h with
  | here hk htext hbefore hc => exact FirstStray.here hk htext hbefore hc
  | there hplain _ ih => exact FirstStray.there hplain ih

/-- The end mark is plain, and adds nothing to the texts of the tokens before it. -/
theorem spelled_append_endMark (ts : List Token) :
    Token.endMark.Plain ∧ spelled (ts ++ [.endMark]) = spelled ts :=
  ⟨fun hk => absurd hk (by decide), spelled_concat_endMark ts⟩

/-! ### Lexemes in upper case -/

namespace Lexeme

/-- The lexeme as the text of its token spells it. -/
def upper (l : Lexeme) : Lexeme :=
  ⟨l.start, l.token.text.toList⟩

/-- In upper case a lexeme makes the same token. -/
@[simp] theorem token_upper (l : Lexeme) : l.upper.token = l.token := by
  obtain ⟨k, cs⟩ := l
  cases k <;> simp [upper, token, wordToken]

namespace WellFormed

variable {l : Lexeme}

/-- A stray character of a word is foreign. -/
theorem foreign_of_stray (h : l.WellFormed) (hk : l.token.kind.isWord = true) {c : Char}
    (hc : c ∈ l.token.text.toList) (hstray : isWordChar c = false) : Foreign c := by
  have hs := start_eq_letter_of_isWord hk
  rw [l.toList_token_text, if_pos hs] at hc
  obtain ⟨d, hd, hupper⟩ := List.mem_flatMap.mp hc
  have hword := isWordChar_or_foreign_of_mem_upperChar (h.isWordChar_of_mem hs hd) hupper
  exact hword.resolve_left (by simp [hstray])

/-- The first character in the text of a token is of the class of its lexeme, or foreign. -/
theorem exists_head_text (h : l.WellFormed) :
    ∃ c cs, l.token.text.toList = c :: cs ∧ (l.start.holds c = true ∨ Foreign c) := by
  obtain ⟨a, tail, hchars, ha, -⟩ := h
  rw [l.toList_token_text, hchars]
  by_cases hs : l.start = .letter
  · obtain ⟨c, cs, hupper⟩ := List.exists_cons_of_ne_nil (upperChar_ne_nil a)
    rw [hs] at ha
    refine ⟨c, cs ++ upperCase tail, ?_, ?_⟩
    · rw [if_pos hs, upperCase_cons, hupper, List.cons_append]
    · rw [hs]
      exact isLetter_or_foreign_of_mem_upperChar ha (by simp [hupper])
  · exact ⟨a, tail, if_neg hs, Or.inl ha⟩

/-- The text of a word begins with a letter, if it begins with a character of words. -/
theorem isLetter_head_text (h : l.WellFormed) (hk : l.token.kind.isWord = true) {c : Char}
    {cs : List Char} (htext : l.token.text.toList = c :: cs) (hc : isWordChar c = true) :
    isLetter c = true := by
  have hs := start_eq_letter_of_isWord hk
  obtain ⟨d, ds, htext', hd⟩ := h.exists_head_text
  obtain ⟨rfl, -⟩ := List.cons.inj (htext'.symm.trans htext)
  rcases hd with hd | hd
  · rwa [hs] at hd
  · have hnot : isWordChar d = false := CharClass.continues_of_foreign hd .letter
    exact absurd hc (by simp [hnot])

/-- A lexeme whose token is plain is well formed in upper case. -/
theorem upper (h : l.WellFormed) (hplain : l.token.Plain) : l.upper.WellFormed := by
  by_cases hs : l.start = .letter
  · have hk : l.token.kind.isWord = true := by rw [isWord_kind_token, hs]; rfl
    have hword := hplain hk
    obtain ⟨c, cs, htext, -⟩ := h.exists_head_text
    rw [htext] at hword
    obtain ⟨hc, hcs⟩ := List.forall_mem_cons.mp hword
    rw [Lexeme.upper, htext, hs]
    exact wellFormed_cons_iff.mpr ⟨h.isLetter_head_text hk htext hc, hcs⟩
  · have hupper : l.upper = l := by rw [Lexeme.upper, l.toList_token_text, if_neg hs]
    rwa [hupper]

end WellFormed

end Lexeme

/-! ### Munching the normal form -/

/-- A lexeme that ends before some others ends before their normal form, in upper case too. -/
theorem endsBefore_spelled {l : Lexeme} {ls : List Lexeme} (hw : ∀ m ∈ ls, m.WellFormed)
    (hs : Separable ((l :: ls).map token)) (cs : List Char) :
    EndsBefore ⟨l.start, cs⟩ (spelled (ls.map token)).toList := by
  intro c hc
  cases ls with
  | nil => exact absurd hc (by simp)
  | cons m ls =>
      obtain ⟨d, ds, htext, hd⟩ := (hw m (by simp)).exists_head_text
      rw [List.map_cons, toList_spelled_cons, htext] at hc
      obtain rfl : d = c := Option.some.inj hc
      rcases hd with hd | hd
      · have hmerges := (separable_cons_iff.mp hs).1 m.token rfl
        rw [merges_token] at hmerges
        exact (CharClass.continues_eq_meets hd l.start).trans hmerges
      · exact CharClass.continues_of_foreign hd l.start

/-- A lexeme whose token is plain is munched in upper case, before all others. -/
theorem Munch.spelled_cons {l : Lexeme} {ls ms : List Lexeme} {rest : List Char}
    (hw : ∀ m ∈ l :: ls, m.WellFormed) (hs : Separable ((l :: ls).map token))
    (hplain : l.token.Plain) (h : Munch (spelled (ls.map token)).toList ms rest) :
    Munch (spelled ((l :: ls).map token)).toList (l.upper :: ms) rest := by
  obtain ⟨hl, hls⟩ := List.forall_mem_cons.mp hw
  rw [List.map_cons, toList_spelled_cons]
  exact Munch.cons (hl.upper hplain) (endsBefore_spelled hls hs _) h

/-- **Plain tokens**: the normal form is munched whole, to the lexemes in upper case. -/
theorem munch_spelled {ls : List Lexeme} (hw : ∀ l ∈ ls, l.WellFormed)
    (hs : Separable (ls.map token)) (hplain : ∀ l ∈ ls, l.token.Plain) :
    Munch (spelled (ls.map token)).toList (ls.map upper) [] := by
  induction ls with
  | nil => exact Munch.nil _
  | cons l ls ih =>
      obtain ⟨hl, hls⟩ := List.forall_mem_cons.mp hplain
      have hm := ih (List.forall_mem_cons.mp hw).2 (separable_cons_iff.mp hs).2 hls
      exact Munch.spelled_cons hw hs hl hm

/-- The part of a word before a character that does not continue it is a word, if there is any. -/
theorem exists_munch_before {before rest : List Char} {c : Char}
    (hhead : ∀ d ∈ before.head?, isLetter d = true) (hbefore : ∀ d ∈ before, isWordChar d = true)
    (hc : isWordChar c = false) :
    ∃ ms, Munch (before ++ c :: rest) ms (c :: rest) ∧ joined ms = before := by
  cases before with
  | nil => exact ⟨[], Munch.nil _, rfl⟩
  | cons d before =>
      have hw : WellFormed ⟨.letter, d :: before⟩ :=
        wellFormed_cons_iff.mpr ⟨hhead d rfl, fun e he => hbefore e (by simp [he])⟩
      have he : EndsBefore ⟨.letter, d :: before⟩ (c :: rest) := by
        intro e he
        obtain rfl := Option.some.inj he
        exact hc
      exact ⟨[⟨.letter, d :: before⟩], Munch.cons hw he (Munch.nil _), by simp⟩

/-- **A stray character**: the normal form is munched up to the first one, which is foreign. -/
theorem exists_munch_of_firstStray {ls : List Lexeme} {r : Rejection}
    (hw : ∀ l ∈ ls, l.WellFormed) (hs : Separable (ls.map token))
    (h : FirstStray (ls.map token) r) :
    ∃ ms rest, Munch (spelled (ls.map token)).toList ms (r.character :: rest) ∧
      (joined ms).length = r.position ∧ Foreign r.character := by
  induction ls generalizing r with
  | nil => cases h
  | cons l ls ih =>
      obtain ⟨hl, hls⟩ := List.forall_mem_cons.mp hw
      cases h with
      | @here _ _ before after c hk htext hbefore hc =>
          -- the text of a word cannot begin with a digit, so what is kept of it is a word
          have hhead : ∀ d ∈ before.head?, isLetter d = true := by
            intro d hd
            obtain ⟨tail, rfl⟩ := List.head?_eq_some_iff.mp hd
            exact hl.isLetter_head_text hk htext (hbefore d (by simp))
          obtain ⟨ms, hm, hjoin⟩ := exists_munch_before hhead hbefore hc
          refine ⟨ms, after ++ (spelled (ls.map token)).toList, ?_, by rw [hjoin], ?_⟩
          · rw [List.map_cons, toList_spelled_cons, htext, List.append_assoc]
            exact hm
          · exact hl.foreign_of_stray hk (by simp [htext]) hc
      | @there _ _ r hplain hr =>
          obtain ⟨ms, rest, hm, hlength, hforeign⟩ := ih hls (separable_cons_iff.mp hs).2 hr
          refine ⟨l.upper :: ms, rest, Munch.spelled_cons hw hs hplain hm, ?_, hforeign⟩
          rw [length_joined_cons, hlength, Rejection.shift, ← String.length_toList]
          rfl

/-! ### Scanning the normal form -/

/-- The tokens of a text of ASCII characters are plain. -/
theorem Munch.plain_of_ascii {cs : List Char} {ls : List Lexeme} (h : Munch cs ls [])
    (hascii : ∀ c ∈ cs, c.toNat < 128) : ∀ l ∈ ls, l.token.Plain := by
  intro l hl hk c hc
  have hs := start_eq_letter_of_isWord hk
  rw [l.toList_token_text, if_pos hs] at hc
  obtain ⟨d, hd, hupper⟩ := List.mem_flatMap.mp hc
  have hmem : d ∈ cs := by
    rw [← h.joined_eq]
    exact List.mem_flatMap.mpr ⟨l, hl, hd⟩
  obtain ⟨hcapital, hword⟩ := upperChar_of_ascii (hascii d hmem)
  rw [hcapital] at hupper
  obtain rfl := List.mem_singleton.mp hupper
  exact hword ((h.wellFormed l hl).isWordChar_of_mem hs hd)

namespace Scanner

variable {query : String} {ls : List Lexeme}

/-- If the tokens of a query are plain, its normal form has the same tokens. -/
theorem tokenize_spelled_of_plain (h : Munch query.toList ls [])
    (hplain : ∀ l ∈ ls, l.token.Plain) :
    (ofQuery (spelled (ls.map token))).tokenize.1 = .ok (ls.map token ++ [.endMark]) := by
  have hm : Munch (ofQuery (spelled (ls.map token))).rest (ls.map upper) [] :=
    munch_spelled h.wellFormed h.separable hplain
  have htokens : token ∘ upper = token := funext token_upper
  rw [tokenize_eq_ok_of_munch hm, List.map_map, htokens]

/-- A first stray character is rejected in the normal form. -/
theorem tokenize_spelled_of_firstStray (h : Munch query.toList ls []) {r : Rejection}
    (hr : FirstStray (ls.map token) r) :
    (ofQuery (spelled (ls.map token))).tokenize.1 = .error r := by
  obtain ⟨ms, rest, hm, hlength, hforeign⟩ :=
    exists_munch_of_firstStray h.wellFormed h.separable hr
  have hstop : first? (r.character :: rest) = none :=
    first?_eq_none_iff.mpr (by simp [classes_eq_nil_iff.mpr (Or.inl hforeign)])
  rw [tokenize_ofQuery_eq_error_of_munch hm hstop, hlength]

/-- **Scanning the normal form.** Let a query scan to some tokens, and let the texts of these
tokens, one after the other, be scanned in turn.

* If every keyword and identifier has letters, digits and `_` only, the tokens are the same.
* Otherwise there is a first character in them that is none of these. It is rejected, and its
  position is its index in the texts.
* So there are no other tokens than those of the query, and for a query of ASCII characters they
  are always had. -/
theorem tokenize_spelled_of_tokenize {ts : List Token} (h : (ofQuery query).tokenize.1 = .ok ts) :
    ((∀ t ∈ ts, t.Plain) → (ofQuery (spelled ts)).tokenize.1 = .ok ts) ∧
    ((¬∀ t ∈ ts, t.Plain) → ∃ r, FirstStray ts r ∧ (ofQuery (spelled ts)).tokenize.1 = .error r ∧
      (spelled ts).toList[r.position]? = some r.character) ∧
    (∀ us, (ofQuery (spelled ts)).tokenize.1 = .ok us → us = ts) ∧
    ((∀ c ∈ query.toList, c.toNat < 128) → (ofQuery (spelled ts)).tokenize.1 = .ok ts) := by
  obtain ⟨ls, hm, rfl⟩ := tokenize_eq_ok_iff_munch.mp h
  obtain ⟨hend, hspelled⟩ := spelled_append_endMark (ls.map token)
  rw [hspelled]
  have hplain : (∀ l ∈ ls, l.token.Plain) ↔ ∀ t ∈ ls.map token ++ [Token.endMark], t.Plain := by
    simp [or_imp, forall_and, hend]
  have hok := tokenize_spelled_of_plain hm
  have herr := fun r => tokenize_spelled_of_firstStray hm (r := r)
  refine ⟨fun hall => hok (hplain.mpr hall), ?_, ?_, fun hascii => hok (hm.plain_of_ascii hascii)⟩
  · intro hnot
    rcases plain_or_firstStray (ls.map token) with hall | ⟨r, hr⟩
    · exact absurd (hplain.mp (by simpa using hall)) hnot
    · exact ⟨r, hr.append _, herr r hr, getElem?_of_tokenize_eq_error (herr r hr)⟩
  · intro us hus
    rcases plain_or_firstStray (ls.map token) with hall | ⟨r, hr⟩
    · exact Except.ok.inj (hus.symm.trans (hok (by simpa using hall)))
    · exact absurd (hus.symm.trans (herr r hr)) (by simp)

/-- The caron that upper-casing takes apart from the letter `ǰ` is rejected in the normal form, at
its index there. In ASCII words stay words, and a word after a number stays apart from it. -/
theorem tokenize_spelled_caron :
    (ofQuery "ǰ").tokenize.1 = .ok [⟨.identifier, "J\u030c"⟩, .endMark] ∧
    (ofQuery (spelled [⟨.identifier, "J\u030c"⟩, .endMark])).tokenize.1 = .error ⟨'\u030c', 1⟩ ∧
    (ofQuery "12ab").tokenize.1 = .ok [⟨.literal, "12"⟩, ⟨.identifier, "AB"⟩, .endMark] ∧
    (ofQuery (spelled [⟨.literal, "12"⟩, ⟨.identifier, "AB"⟩, .endMark])).tokenize.1 =
      .ok [⟨.literal, "12"⟩, ⟨.identifier, "AB"⟩, .endMark] := by
  have hletter : first? "ǰ".toList = some (⟨.letter, ['ǰ']⟩, []) := by decide +kernel
  have hnumber : first? "12ab".toList = some (⟨.digit, ['1', '2']⟩, "ab".toList) := by
    decide +kernel
  have hword : first? "ab".toList = some (⟨.letter, ['a', 'b']⟩, []) := by decide +kernel
  have hcaron : (ofQuery "ǰ").tokenize.1 = .ok [⟨.identifier, "J\u030c"⟩, .endMark] := by
    have hm : Munch "ǰ".toList [⟨.letter, ['ǰ']⟩] [] := Munch.of_first? hletter (Munch.nil _)
    exact (tokenize_eq_ok_of_munch hm).trans (congrArg Except.ok (by decide +kernel))
  have hascii : (ofQuery "12ab").tokenize.1 =
      .ok [⟨.literal, "12"⟩, ⟨.identifier, "AB"⟩, .endMark] := by
    have hm : Munch "12ab".toList [⟨.digit, ['1', '2']⟩, ⟨.letter, ['a', 'b']⟩] [] :=
      Munch.of_first? hnumber (Munch.of_first? hword (Munch.nil _))
    exact (tokenize_eq_ok_of_munch hm).trans (congrArg Except.ok (by decide +kernel))
  have hstray : isWordChar '\u030c' = false := by decide +kernel
  have hnot : ¬∀ t ∈ [(⟨.identifier, "J\u030c"⟩ : Token), .endMark], t.Plain := by
    intro hall
    exact absurd (hall _ List.mem_cons_self rfl '\u030c' (by decide)) (by simp [hstray])
  have hcapital : isWordChar 'J' = true := by decide +kernel
  have hbefore : ∀ d ∈ ['J'], isWordChar d = true := by simp [hcapital]
  have htext : "J\u030c".toList = ['J'] ++ '\u030c' :: [] := by decide
  have hfirst : FirstStray [⟨.identifier, "J\u030c"⟩, .endMark] ⟨'\u030c', 1⟩ :=
    FirstStray.here rfl htext hbefore hstray
  obtain ⟨r, hr, herr, -⟩ := (tokenize_spelled_of_tokenize hcaron).2.1 hnot
  rw [hr.unique hfirst] at herr
  exact ⟨hcaron, herr, hascii, (tokenize_spelled_of_tokenize hascii).2.2.2 (by simp)⟩

end Scanner

end QueryScan
