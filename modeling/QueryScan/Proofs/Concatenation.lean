import QueryScan.Proofs.BadIndex
import QueryScan.Proofs.Spelling

/-!
# Concatenated Queries

Two texts side by side are scanned one after the other, unless the last token of the first goes
on with the first character of the second: then the border **merges**, and the last token takes
in all of the second text that continues it.

What is taken in ends where a lexeme of the second text ends. A word goes on with letters, digits
and `_`, and the lexemes of the second text that begin with such characters consist of them; a
number goes on with digits, and only a number begins with one (`Munch.exists_drop`). So the
second text loses whole tokens to the border and keeps the others: `x` and `1ab` are three tokens
apart, and the one word `X1AB` together.

## Main results

* `Munch.append`, `Munch.trans`: munching a text in two parts.
* `Munch.exists_drop`: what is left of a munched text when a lexeme before it has taken in all
  that continues it.
* `Scanner.tokenize_ofQuery_append`: **the tokens of two texts side by side**, with a border that
  merges and with one that does not.
-/

namespace QueryScan

open Lexeme

/-! ### Munching in two parts -/

/-- A text without characters has no lexemes. -/
theorem Munch.eq_nil {rest : List Char} {ls : List Lexeme} (h : Munch [] ls rest) : ls = [] := by
  cases ls with
  | nil => rfl
  | cons l ls =>
      obtain ⟨cs', hf, -⟩ := h.cons_inv
      exact absurd hf (by simp)

/-- One lexeme split off is one step of a munch. -/
theorem Munch.of_first? {cs cs' rest : List Char} {l : Lexeme} {ls : List Lexeme}
    (hf : first? cs = some (l, cs')) (h : Munch cs' ls rest) : Munch cs (l :: ls) rest := by
  obtain ⟨hw, he, rfl⟩ := first?_eq_some_iff.mp hf
  exact Munch.cons hw he h

/-- What a munch leaves over can be munched in turn. -/
theorem Munch.trans {cs mid rest : List Char} {ls ms : List Lexeme} (h : Munch cs ls mid)
    (h' : Munch mid ms rest) : Munch cs (ls ++ ms) rest := by
  induction h with
  | nil cs => exact h'
  | cons hw he _ ih => exact Munch.cons hw he (ih h')

/-- A munch can be stopped after any of its lexemes. -/
theorem Munch.split {cs rest : List Char} {ls ms : List Lexeme} (h : Munch cs (ls ++ ms) rest) :
    ∃ mid, Munch cs ls mid ∧ Munch mid ms rest := by
  induction ls generalizing cs with
  | nil => exact ⟨cs, Munch.nil cs, h⟩
  | cons l ls ih =>
      obtain ⟨cs', hf, h'⟩ := h.cons_inv
      obtain ⟨mid, hl, hm⟩ := ih h'
      exact ⟨mid, Munch.of_first? hf hl, hm⟩

/-- **Text added at the end** leaves a munch as it is, and adds to what is left over. If nothing
is, the last lexeme has to end before the new text. -/
theorem Munch.append {cs rest : List Char} {ls : List Lexeme} (h : Munch cs ls rest)
    {ds : List Char} (hborder : rest = [] → ∀ l ∈ ls.getLast?, l.EndsBefore ds) :
    Munch (cs ++ ds) ls (rest ++ ds) := by
  induction h with
  | nil cs => exact Munch.nil _
  | @cons l cs rest ls hw he hm ih =>
      rw [List.append_assoc]
      refine Munch.cons hw ?_ (ih ?_)
      · cases cs with
        | nil =>
            obtain rfl := hm.eq_nil
            exact hborder hm.nil_inv l rfl
        | cons c cs => exact he
      · intro hrest m hlast
        refine hborder hrest m ?_
        rw [List.getLast?_cons, hlast]
        rfl

/-! ### Borders -/

namespace CharClass

/-- A lexeme goes on with all characters of a lexeme whose first character continues it. -/
theorem continues_of_meets {k : CharClass} {m : Lexeme} (hm : m.WellFormed)
    (hk : k.meets m.start = true) {d : Char} (hd : d ∈ m.chars) : k.continues d = true := by
  have hword : m.start = .letter → isWordChar d = true := fun hs => hm.isWordChar_of_mem hs hd
  have hholds : m.start ≠ .letter → m.start.holds d = true := fun hs => hm.holds_of_mem hs hd
  obtain ⟨start, chars⟩ := m
  cases k <;> cases start <;> simp_all [meets, continues, holds, isWordChar]

end CharClass

/-- A lexeme that takes in all that continues it at the front of a munched text takes whole
lexemes, and at least one if there is anything to take. The others are munched as before. -/
theorem Munch.exists_drop {cs : List Char} {ls : List Lexeme} (h : Munch cs ls [])
    (k : CharClass) :
    ∃ n, n ≤ ls.length ∧ Munch (cs.dropWhile k.continues) (ls.drop n) [] ∧
      ((∃ c ∈ cs.head?, k.continues c = true) → 0 < n) := by
  induction ls generalizing cs with
  | nil =>
      obtain rfl := h.nil_inv
      exact ⟨0, Nat.le_refl _, Munch.nil _, by simp⟩
  | cons m ls ih =>
      obtain ⟨cs', hf, h'⟩ := h.cons_inv
      obtain ⟨hw, -, rfl⟩ := first?_eq_some_iff.mp hf
      -- the first character of a lexeme decides for all of them whether they are taken in
      cases hk : k.meets m.start with
      | true =>
          obtain ⟨n, hn, hdrop, -⟩ := ih h'
          refine ⟨n + 1, Nat.succ_le_succ hn, ?_, fun _ => Nat.succ_pos n⟩
          rw [List.dropWhile_append_of_pos fun d hd => CharClass.continues_of_meets hw hk hd]
          exact hdrop
      | false =>
          obtain ⟨c, tail, hchars, hc, -⟩ := id hw
          have hstop : k.continues c = false := (CharClass.continues_eq_meets hc k).trans hk
          refine ⟨0, Nat.zero_le _, ?_, ?_⟩
          · rw [hchars, List.cons_append, List.dropWhile_cons_of_neg (by simp [hstop]),
              ← List.cons_append, ← hchars]
            exact h
          · rintro ⟨d, hd, hgo⟩
            rw [hchars, List.cons_append] at hd
            obtain rfl := Option.some.inj hd
            exact absurd (hstop.symm.trans hgo) (by simp)

/-- The lexeme with all that continues it at the front of a text. -/
def Lexeme.takeIn (l : Lexeme) (ds : List Char) : Lexeme :=
  ⟨l.start, l.chars ++ ds.takeWhile l.start.continues⟩

/-- A well-formed lexeme stays well formed with what it takes in. -/
theorem Lexeme.WellFormed.takeIn {l : Lexeme} (h : l.WellFormed) (ds : List Char) :
    (l.takeIn ds).WellFormed := by
  obtain ⟨c, cs, hchars, hc, hcs⟩ := h
  refine ⟨c, cs ++ ds.takeWhile l.start.continues, ?_, hc, ?_⟩
  · rw [Lexeme.takeIn, hchars, List.cons_append]
  · intro d hd
    rcases List.mem_append.mp hd with hd | hd
    · exact hcs d hd
    · exact List.all_eq_true.mp List.all_takeWhile d hd

/-- **A text after a lexeme**: the lexeme takes in what continues it, and then the lexemes of the
text follow, without those that have been taken in. -/
theorem Munch.takeIn {l : Lexeme} (hw : l.WellFormed) {ds : List Char} {ms : List Lexeme}
    (h : Munch (ds.dropWhile l.start.continues) ms []) :
    Munch (l.chars ++ ds) (l.takeIn ds :: ms) [] := by
  have hchars : (l.takeIn ds).chars ++ ds.dropWhile l.start.continues = l.chars ++ ds := by
    rw [Lexeme.takeIn, List.append_assoc, List.takeWhile_append_dropWhile]
  rw [← hchars]
  exact Munch.cons (hw.takeIn ds) (l.endsBefore_dropWhile ds) h

/-- The token **goes on** with the character: a keyword or an identifier with a letter, a digit or
an underscore, and a literal with a digit. -/
def Token.goesOn (t : Token) (c : Char) : Bool :=
  t.kind.isWord && isWordChar c || t.kind == .literal && isDigit c

/-- A token goes on with the characters that continue its lexeme. -/
theorem Lexeme.goesOn_token (l : Lexeme) (c : Char) : l.token.goesOn c = l.start.continues c := by
  rw [Token.goesOn, isWord_kind_token, kind_token_beq_literal]
  cases l.start <;> simp [CharClass.continues]

/-- The border between some tokens and a text after them **merges** if the last token goes on with
the first character. -/
def BorderMerges (ts : List Token) (text : List Char) : Prop :=
  ∃ t ∈ ts.getLast?, ∃ c ∈ text.head?, t.goesOn c = true

/-- After a single token the border merges if the token goes on with the first character. -/
theorem borderMerges_singleton_cons_iff {t : Token} {c : Char} {cs : List Char} :
    BorderMerges [t] (c :: cs) ↔ t.goesOn c = true := by
  simp [BorderMerges]

/-- The border merges if the last lexeme is continued. -/
theorem borderMerges_map_token_iff {ls : List Lexeme} {ds : List Char} :
    BorderMerges (ls.map token) ds ↔
      ∃ l ∈ ls.getLast?, ∃ c ∈ ds.head?, l.start.continues c = true := by
  rw [BorderMerges, List.getLast?_map]
  cases ls.getLast? with
  | none => simp
  | some l => simp [goesOn_token]

/-- At a border that does not merge the last lexeme ends. -/
theorem endsBefore_of_not_borderMerges {ls : List Lexeme} {ds : List Char}
    (h : ¬BorderMerges (ls.map token) ds) : ∀ l ∈ ls.getLast?, l.EndsBefore ds := by
  intro l hl c hc
  rw [borderMerges_map_token_iff] at h
  exact Bool.eq_false_iff.mpr fun hgo => h ⟨l, hl, c, hc, hgo⟩

/-- **A border that merges**: the lexemes of the first text but the last, that one with what it
takes in, and the lexemes of the second text but those taken in. -/
theorem exists_munch_append_of_borderMerges {cs ds : List Char} {ls ms : List Lexeme}
    (h : Munch cs ls []) (h' : Munch ds ms []) (hborder : BorderMerges (ls.map token) ds) :
    ∃ l n, 0 < n ∧ n ≤ ms.length ∧ Munch (cs ++ ds) (ls.dropLast ++ l :: ms.drop n) [] := by
  obtain ⟨l, hlast, hgo⟩ := borderMerges_map_token_iff.mp hborder
  obtain ⟨front, rfl⟩ := List.getLast?_eq_some_iff.mp hlast
  obtain ⟨mid, hfront, hl⟩ := h.split
  obtain ⟨cs', hf, hnil⟩ := hl.cons_inv
  obtain ⟨hw, -, rfl⟩ := first?_eq_some_iff.mp hf
  obtain rfl : [] = cs' := hnil.nil_inv
  rw [List.append_nil] at hfront
  obtain ⟨n, hn, hdrop, hpos⟩ := h'.exists_drop l.start
  refine ⟨l.takeIn ds, n, hpos hgo, hn, ?_⟩
  rw [List.dropLast_concat]
  have hfront' : Munch (cs ++ ds) front (l.chars ++ ds) :=
    hfront.append fun hempty => absurd hempty hw.chars_ne_nil
  exact hfront'.trans (Munch.takeIn hw hdrop)

namespace Scanner

/-- A scanner of two texts side by side has both of them ahead. -/
theorem rest_ofQuery_append (a b : String) : (ofQuery (a ++ b)).rest = a.toList ++ b.toList :=
  String.toList_append

/-- The lexemes of a query that is munched whole have as many characters as the query. -/
theorem length_joined_of_munch {query : String} {ls : List Lexeme}
    (h : Munch query.toList ls []) : (joined ls).length = query.length := by
  rw [h.joined_eq, String.length_toList]

/-- After a last lexeme that ends at the border, the second text is scanned as if it stood alone,
with the position of a rejection counted from the start of the first. -/
theorem tokenize_append_of_endsBefore {a b : String} {ls : List Lexeme}
    (ha : Munch a.toList ls []) (hborder : ∀ l ∈ ls.getLast?, l.EndsBefore b.toList) :
    (ofQuery (a ++ b)).tokenize.1 =
      match (ofQuery b).tokenize.1 with
      | .ok us => .ok (ls.map token ++ us)
      | .error r => .error ⟨r.character, a.length + r.position⟩ := by
  obtain ⟨ms, rest, hb, hstop⟩ := exists_munch b.toList
  have hboth : Munch (ofQuery (a ++ b)).rest (ls ++ ms) rest := by
    rw [rest_ofQuery_append]
    exact (ha.append fun _ => hborder).trans hb
  have hb' : Munch (ofQuery b).rest ms rest := hb
  cases rest with
  | nil =>
      rw [tokenize_eq_ok_of_munch hb', tokenize_eq_ok_of_munch hboth, List.map_append,
        List.append_assoc]
  | cons c cs =>
      rw [tokenize_ofQuery_eq_error_of_munch hb' hstop,
        tokenize_ofQuery_eq_error_of_munch hboth hstop, joined_append, List.length_append,
        length_joined_of_munch ha]

/-- At a border that merges, the last token of the first text gives way to one that stands for
one token or more of the second text too. -/
theorem tokenize_append_of_borderMerges {a b : String} {ls ms : List Lexeme}
    (ha : Munch a.toList ls []) (hb : Munch b.toList ms [])
    (hborder : BorderMerges (ls.map token) b.toList) :
    ∃ t n, 0 < n ∧ n ≤ ms.length ∧ (ofQuery (a ++ b)).tokenize.1 =
      .ok ((ls.map token).dropLast ++ t :: (ms.map token ++ [Token.endMark]).drop n) := by
  obtain ⟨l, n, hpos, hn, hboth⟩ := exists_munch_append_of_borderMerges ha hb hborder
  rw [← rest_ofQuery_append] at hboth
  refine ⟨l.token, n, hpos, hn, ?_⟩
  rw [tokenize_eq_ok_of_munch hboth, List.drop_append_of_le_length (by simpa using hn)]
  simp

/-- **Two texts side by side.** Let a text scan to some tokens and the end mark, and let another
follow it.

* If the border does not merge, the tokens of the second text follow, up to its end mark; and if
  the second text has a character that is rejected, that character is rejected, with a position
  that counts the characters of the first text too.
* If the border merges and the second text can be scanned, then so can both together. They have
  the tokens of the first text but the last, one token in its place, and the tokens of the second
  text but one or more at its front, so fewer than there are apart. -/
theorem tokenize_ofQuery_append {a b : String} {ts : List Token}
    (h : (ofQuery a).tokenize.1 = .ok (ts ++ [.endMark])) :
    (¬BorderMerges ts b.toList →
      (∀ us, (ofQuery b).tokenize.1 = .ok us →
        (ofQuery (a ++ b)).tokenize.1 = .ok (ts ++ us)) ∧
      ∀ r, (ofQuery b).tokenize.1 = .error r →
        (ofQuery (a ++ b)).tokenize.1 = .error ⟨r.character, a.length + r.position⟩) ∧
    (BorderMerges ts b.toList → ∀ us, (ofQuery b).tokenize.1 = .ok us →
      ∃ t n, 0 < n ∧ n < us.length ∧
        (ofQuery (a ++ b)).tokenize.1 = .ok (ts.dropLast ++ t :: us.drop n) ∧
        (ts.dropLast ++ t :: us.drop n).length < (ts ++ us).length) := by
  obtain ⟨ls, ha, heq⟩ := tokenize_eq_ok_iff_munch.mp h
  obtain rfl : ts = ls.map token := List.append_cancel_right heq
  refine ⟨?_, ?_⟩
  · intro hborder
    have happend := tokenize_append_of_endsBefore ha (endsBefore_of_not_borderMerges hborder)
    refine ⟨?_, ?_⟩
    · intro us hus
      rw [happend, hus]
    · intro r hr
      rw [happend, hr]
  · intro hborder us hus
    obtain ⟨ms, hb, rfl⟩ := tokenize_eq_ok_iff_munch.mp hus
    obtain ⟨t, n, hpos, hn, htokens⟩ := tokenize_append_of_borderMerges ha hb hborder
    have hne : 0 < (ls.map token).length := by
      obtain ⟨last, hlast, -⟩ := hborder
      exact List.length_pos_of_mem (List.mem_of_getLast? hlast)
    refine ⟨t, n, hpos, by simp; omega, htokens, ?_⟩
    simp only [List.length_append, List.length_dropLast, List.length_cons, List.length_drop,
      List.length_nil, List.length_map] at hne ⊢
    omega

/-- The word `x` goes on with `1ab` and takes in both of its tokens. It does not go on with an
operator, after which a rejected character has one position more than in the second text. -/
theorem tokenize_x_append :
    (ofQuery "x").tokenize.1 = .ok ([⟨.identifier, "X"⟩] ++ [.endMark]) ∧
    (∃ ts, (ofQuery ("x" ++ "1ab")).tokenize.1 = .ok ts ∧ ts.length < 4) ∧
    (ofQuery ("x" ++ "=2")).tokenize.1 =
      .ok [⟨.identifier, "X"⟩, ⟨.operator, "="⟩, ⟨.literal, "2"⟩, .endMark] ∧
    (ofQuery ("x" ++ "=#")).tokenize.1 = .error ⟨'#', 2⟩ := by
  have hx : (ofQuery "x").tokenize.1 = .ok ([⟨.identifier, "X"⟩] ++ [.endMark]) := by
    have hm : Munch "x".toList [⟨.letter, ['x']⟩] [] :=
      Munch.of_first? (by decide +kernel) (Munch.nil _)
    exact (tokenize_eq_ok_of_munch hm).trans (congrArg Except.ok (by decide +kernel))
  have hdigit : BorderMerges [⟨.identifier, "X"⟩] "1ab".toList :=
    borderMerges_singleton_cons_iff.mpr (by decide +kernel : Token.goesOn _ '1' = true)
  have hsign : ∀ cs, ¬BorderMerges [⟨.identifier, "X"⟩] ('=' :: cs) := by
    intro cs h
    exact absurd (borderMerges_singleton_cons_iff.mp h) (by decide +kernel)
  refine ⟨hx, ?_, ?_, ?_⟩
  · have hnumber : first? "1ab".toList = some (⟨.digit, ['1']⟩, ['a', 'b']) := by decide +kernel
    have hword : first? ['a', 'b'] = some (⟨.letter, ['a', 'b']⟩, []) := by decide +kernel
    have hm := Munch.of_first? hnumber (Munch.of_first? hword (Munch.nil []))
    obtain ⟨t, n, -, -, hts, hlen⟩ :=
      (tokenize_ofQuery_append hx).2 hdigit _ (tokenize_eq_ok_of_munch hm)
    exact ⟨_, hts, hlen⟩
  · have hequals : first? "=2".toList = some (⟨.operator, ['=']⟩, ['2']) := by decide +kernel
    have hnumber : first? ['2'] = some (⟨.digit, ['2']⟩, []) := by decide +kernel
    have hm := Munch.of_first? hequals (Munch.of_first? hnumber (Munch.nil []))
    have hb : (ofQuery "=2").tokenize.1 =
        .ok [⟨.operator, "="⟩, ⟨.literal, "2"⟩, .endMark] :=
      (tokenize_eq_ok_of_munch hm).trans (congrArg Except.ok (by decide +kernel))
    have hborder : ¬BorderMerges [⟨.identifier, "X"⟩] "=2".toList := hsign ['2']
    exact ((tokenize_ofQuery_append hx).1 hborder).1 _ hb
  · have hequals : first? "=#".toList = some (⟨.operator, ['=']⟩, ['#']) := by decide +kernel
    have hstop : first? ['#'] = none := by decide +kernel
    have hm := Munch.of_first? hequals (Munch.nil ['#'])
    have hb : (ofQuery "=#").tokenize.1 = .error ⟨'#', 1⟩ :=
      tokenize_ofQuery_eq_error_of_munch hm hstop
    have hborder : ¬BorderMerges [⟨.identifier, "X"⟩] "=#".toList := hsign ['#']
    exact ((tokenize_ofQuery_append hx).1 hborder).2 _ hb

end Scanner

end QueryScan
