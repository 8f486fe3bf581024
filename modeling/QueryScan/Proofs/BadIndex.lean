import QueryScan.Proofs.Tokenization

/-!
# Bad Indices

Which texts a scanner rejects, and where, can be said without running it. An index of a
text is **bad** if the character there is foreign to the language, or if it is an
underscore that no word reaches: whether `_` is allowed depends on the characters before
it, but only on whether some letter stands before it with nothing but word characters in
between. So `a1_` and `1a_` have no bad index, and `12_` and `+_` have one.

The condition looks at single characters, the scanner at lexemes. The two agree because a
lexeme that ends as late as it can neither contains a bad index nor changes which indices
after it are bad (`badIndex_append_add_iff`): a letter inside it makes it a word, and a word
that ends is followed by a character which no word goes on with.

## Main results

* `Munch.not_badIndex`, `Munch.badIndex_add_iff`: no index of the munched lexemes is bad,
  and those after them are bad as they are in what is left over.
* `Scanner.tokenize_ofQuery_eq_error_iff`: a scan fails exactly if the query has a bad index,
  rejects the character at the first of them, and stops there.
-/

namespace QueryScan

open Lexeme

/-! ### Characters -/

/-- A character is **foreign** if it is of no class and no underscore. -/
def Foreign (c : Char) : Prop :=
  isLetter c = false ∧ isDigit c = false ∧ isOperator c = false ∧ isPunctuation c = false ∧
    c ≠ '_'

/-- A character of some class is neither foreign nor an underscore. -/
theorem CharClass.not_foreign_of_holds {k : CharClass} {c : Char} (h : k.holds c = true) :
    ¬Foreign c ∧ c ≠ '_' := by
  constructor
  · rintro ⟨hl, hd, ho, hp, -⟩
    cases k <;> simp_all [holds]
  · rintro rfl
    have hmem : k ∈ classes '_' := mem_classes_iff.mpr h
    rw [classes_underscore] at hmem
    exact absurd hmem (by simp)

/-- A foreign character continues no lexeme. -/
theorem CharClass.continues_of_foreign {c : Char} (h : Foreign c) (k : CharClass) :
    k.continues c = false := by
  obtain ⟨hl, hd, -, -, hu⟩ := h
  cases k <;> simp [continues, isWordChar, hl, hd, hu]

/-- The characters that start no lexeme are the foreign ones and the underscore. -/
theorem classes_eq_nil_iff {c : Char} : classes c = [] ↔ Foreign c ∨ c = '_' := by
  constructor
  · intro h
    have hnot := CharClass.holds_eq_false_of_classes h
    by_cases hc : c = '_'
    · exact Or.inr hc
    · exact Or.inl ⟨hnot .letter, hnot .digit, hnot .operator, hnot .punctuation, hc⟩
  · intro h
    refine List.eq_nil_iff_forall_not_mem.mpr ?_
    intro k hk
    have hne := CharClass.not_foreign_of_holds (mem_classes_iff.mp hk)
    exact h.elim hne.1 hne.2

/-! ### Bad indices -/

/-- A word reaches the index: some letter stands before it, with nothing but word characters
in between. -/
def WordReaches (text : List Char) (i : Nat) : Prop :=
  ∃ j, j < i ∧ (∃ d, text[j]? = some d ∧ isLetter d = true) ∧
    ∀ k, j < k → k < i → ∃ d, text[k]? = some d ∧ isWordChar d = true

/-- An index is **bad** if its character is foreign, or an underscore that no word reaches. -/
def BadIndex (text : List Char) (i : Nat) : Prop :=
  ∃ c, text[i]? = some c ∧ (Foreign c ∨ c = '_' ∧ ¬WordReaches text i)

/-- The first of the bad indices of a text. -/
def FirstBad (text : List Char) (i : Nat) : Prop :=
  BadIndex text i ∧ ∀ j < i, ¬BadIndex text j

/-- There is one first bad index at most. -/
theorem FirstBad.unique {text : List Char} {i j : Nat} (hi : FirstBad text i)
    (hj : FirstBad text j) : i = j := by
  rcases Nat.lt_trichotomy i j with hlt | heq | hgt
  · exact absurd hi.1 (hj.2 i hlt)
  · exact heq
  · exact absurd hj.1 (hi.2 j hgt)

/-! ### Over one lexeme -/

/-- Only words go on with characters that do not start them. -/
theorem CharClass.holds_of_continues {k : CharClass} (hk : k ≠ .letter) {c : Char}
    (h : k.continues c = true) : k.holds c = true := by
  cases k <;> simp_all [continues, holds]

/-- All characters of a lexeme that is no word belong to its class. -/
theorem Lexeme.WellFormed.holds_of_mem {l : Lexeme} (hw : l.WellFormed)
    (hs : l.start ≠ .letter) {d : Char} (hd : d ∈ l.chars) : l.start.holds d = true := by
  obtain ⟨c, cs, hchars, hc, hcs⟩ := hw
  rw [hchars] at hd
  rcases List.mem_cons.mp hd with rfl | hd
  · exact hc
  · exact CharClass.holds_of_continues hs (hcs d hd)

/-- All characters of a word are word characters. -/
theorem Lexeme.WellFormed.isWordChar_of_mem {l : Lexeme} (hw : l.WellFormed)
    (hs : l.start = .letter) {d : Char} (hd : d ∈ l.chars) : isWordChar d = true := by
  obtain ⟨c, cs, hchars, hc, hcs⟩ := hw
  rw [hs] at hc hcs
  rw [hchars] at hd
  rcases List.mem_cons.mp hd with rfl | hd
  · have hl : isLetter d = true := hc
    simp [isWordChar, hl]
  · exact hcs d hd

/-- A letter in a well-formed lexeme makes it a word. -/
theorem Lexeme.WellFormed.start_eq_letter {l : Lexeme} (hw : l.WellFormed) {d : Char}
    (hd : d ∈ l.chars) (hl : isLetter d = true) : l.start = .letter := by
  by_cases hs : l.start = .letter
  · exact hs
  · exact CharClass.eq_of_holds (hw.holds_of_mem hs hd) hl

/-- No character of a well-formed lexeme is foreign. -/
theorem Lexeme.WellFormed.not_foreign {l : Lexeme} (hw : l.WellFormed) {d : Char}
    (hd : d ∈ l.chars) : ¬Foreign d := by
  by_cases hs : l.start = .letter
  · rintro ⟨hl, hdig, -, -, hu⟩
    have hword := hw.isWordChar_of_mem hs hd
    simp [isWordChar, hl, hdig, hu] at hword
  · exact (CharClass.not_foreign_of_holds (hw.holds_of_mem hs hd)).1

/-- Indices after the characters of a lexeme are indices of what follows it. -/
theorem getElem?_chars_append_add (l : Lexeme) (cs : List Char) (i : Nat) :
    (l.chars ++ cs)[l.length + i]? = cs[i]? := by
  rw [length, List.getElem?_append_right (Nat.le_add_right _ _), Nat.add_sub_cancel_left]

/-- A word reaches every underscore in a well-formed lexeme: only words have underscores, and
their first character is a letter. -/
theorem wordReaches_of_getElem? {l : Lexeme} (hw : l.WellFormed) {cs : List Char} {i : Nat}
    (hi : l.chars[i]? = some '_') : WordReaches (l.chars ++ cs) i := by
  have hmem : '_' ∈ l.chars := List.mem_of_getElem? hi
  have hs : l.start = .letter := by
    by_cases hs : l.start = .letter
    · exact hs
    · exact absurd rfl (CharClass.not_foreign_of_holds (hw.holds_of_mem hs hmem)).2
  obtain ⟨c, tail, hchars, hc, -⟩ := id hw
  have hpos : 0 < i := by
    rcases Nat.eq_zero_or_pos i with rfl | hpos
    · rw [hchars] at hi
      exact absurd (Option.some.inj hi) (CharClass.not_foreign_of_holds hc).2
    · exact hpos
  refine ⟨0, hpos, ⟨c, by simp [hchars], by rw [hs] at hc; exact hc⟩, ?_⟩
  intro k _ hk
  have hk' : k < l.chars.length := Nat.lt_trans hk (List.getElem?_eq_some_iff.mp hi).1
  refine ⟨l.chars[k], ?_, hw.isWordChar_of_mem hs (List.getElem_mem hk')⟩
  rw [List.getElem?_append_left hk', List.getElem?_eq_getElem hk']

/-- No index of a well-formed lexeme is bad. -/
theorem not_badIndex_of_lt {l : Lexeme} (hw : l.WellFormed) {cs : List Char} {i : Nat}
    (hi : i < l.length) : ¬BadIndex (l.chars ++ cs) i := by
  rintro ⟨c, hc, hbad⟩
  rw [List.getElem?_append_left hi] at hc
  rcases hbad with hf | ⟨rfl, hnot⟩
  · exact hw.not_foreign (List.mem_of_getElem? hc) hf
  · exact hnot (wordReaches_of_getElem? hw hc)

/-- A lexeme that ends as late as it can does not reach an underscore after it: if it has a
letter, it is a word, and the next character continues no word. -/
theorem wordReaches_append_add_iff {l : Lexeme} (hw : l.WellFormed) {cs : List Char}
    (he : l.EndsBefore cs) {i : Nat} (hi : cs[i]? = some '_') :
    WordReaches (l.chars ++ cs) (l.length + i) ↔ WordReaches cs i := by
  have hright := getElem?_chars_append_add l cs
  constructor
  · rintro ⟨j, hj, ⟨d, hd, hl⟩, hbetween⟩
    rcases Nat.lt_or_ge j l.length with hlt | hge
    · exfalso
      rw [List.getElem?_append_left hlt] at hd
      have hs := hw.start_eq_letter (List.mem_of_getElem? hd) hl
      obtain ⟨e, he', hword⟩ : ∃ e, cs[0]? = some e ∧ isWordChar e = true := by
        rcases Nat.eq_zero_or_pos i with rfl | hpos
        · exact ⟨'_', hi, by simp [isWordChar]⟩
        · obtain ⟨e, he', hword⟩ := hbetween l.length hlt (by omega)
          exact ⟨e, by rw [← hright 0]; exact he', hword⟩
      have hstop := he e (by rw [List.head?_eq_getElem?]; exact he')
      rw [hs] at hstop
      exact absurd hword (by rw [show isWordChar e = false from hstop]; simp)
    · obtain ⟨j, rfl⟩ := Nat.exists_eq_add_of_le hge
      refine ⟨j, by omega, ⟨d, by rw [← hright j]; exact hd, hl⟩, ?_⟩
      intro k hjk hki
      rw [← hright k]
      exact hbetween (l.length + k) (by omega) (by omega)
  · rintro ⟨j, hj, ⟨d, hd, hl⟩, hbetween⟩
    refine ⟨l.length + j, by omega, ⟨d, by rw [hright j]; exact hd, hl⟩, ?_⟩
    intro k hjk hki
    obtain ⟨k, rfl⟩ := Nat.exists_eq_add_of_le (show l.length ≤ k by omega)
    rw [hright k]
    exact hbetween k (by omega) (by omega)

/-- A lexeme that ends as late as it can leaves the bad indices after it as they are. -/
theorem badIndex_append_add_iff {l : Lexeme} (hw : l.WellFormed) {cs : List Char}
    (he : l.EndsBefore cs) {i : Nat} :
    BadIndex (l.chars ++ cs) (l.length + i) ↔ BadIndex cs i := by
  have hright := getElem?_chars_append_add l cs i
  constructor
  · rintro ⟨c, hc, hbad⟩
    rw [hright] at hc
    refine ⟨c, hc, hbad.imp_right ?_⟩
    rintro ⟨rfl, hnot⟩
    exact ⟨rfl, fun hreach => hnot ((wordReaches_append_add_iff hw he hc).mpr hreach)⟩
  · rintro ⟨c, hc, hbad⟩
    refine ⟨c, hright.trans hc, hbad.imp_right ?_⟩
    rintro ⟨rfl, hnot⟩
    exact ⟨rfl, fun hreach => hnot ((wordReaches_append_add_iff hw he hc).mp hreach)⟩

/-! ### Over a munched text -/

/-- No index of the lexemes of a munched text is bad. -/
theorem Munch.not_badIndex {cs rest : List Char} {ls : List Lexeme} (h : Munch cs ls rest)
    {i : Nat} (hi : i < (joined ls).length) : ¬BadIndex cs i := by
  induction h generalizing i with
  | nil cs => exact absurd hi (by simp)
  | @cons l cs rest ls hw he _ ih =>
      rw [length_joined_cons] at hi
      rcases Nat.lt_or_ge i l.length with hlt | hge
      · exact not_badIndex_of_lt hw hlt
      · obtain ⟨i, rfl⟩ := Nat.exists_eq_add_of_le hge
        rw [badIndex_append_add_iff hw he]
        exact ih (by omega)

/-- After the lexemes of a munched text, the bad indices are those of what is left over. -/
theorem Munch.badIndex_add_iff {cs rest : List Char} {ls : List Lexeme}
    (h : Munch cs ls rest) {i : Nat} :
    BadIndex cs ((joined ls).length + i) ↔ BadIndex rest i := by
  induction h with
  | nil cs => simp
  | cons hw he _ ih =>
      rw [length_joined_cons, Nat.add_assoc, badIndex_append_add_iff hw he, ih]

/-- A text that is munched whole has no bad index. -/
theorem Munch.not_badIndex_of_nil {cs : List Char} {ls : List Lexeme} (h : Munch cs ls [])
    (i : Nat) : ¬BadIndex cs i := by
  intro hbad
  rcases Nat.lt_or_ge i (joined ls).length with hlt | hge
  · exact h.not_badIndex hlt hbad
  · obtain ⟨i, rfl⟩ := Nat.exists_eq_add_of_le hge
    obtain ⟨c, hc, -⟩ := h.badIndex_add_iff.mp hbad
    exact absurd hc (by simp)

/-- A munch that stops in front of a character stops at the first bad index. -/
theorem Munch.firstBad {cs rest : List Char} {ls : List Lexeme} {c : Char}
    (h : Munch cs ls (c :: rest)) (hrest : first? (c :: rest) = none) :
    FirstBad cs (joined ls).length ∧ cs[(joined ls).length]? = some c := by
  have hzero : BadIndex (c :: rest) 0 := by
    refine ⟨c, rfl, ?_⟩
    refine (classes_eq_nil_iff.mp (first?_eq_none_iff.mp hrest c rfl)).imp_right ?_
    intro hc
    exact ⟨hc, fun ⟨j, hj, _⟩ => absurd hj (by simp)⟩
  refine ⟨⟨?_, fun i hi => h.not_badIndex hi⟩, ?_⟩
  · exact h.badIndex_add_iff.mpr hzero
  · rw [← h.joined_append]
    simp

/-! ### Rejected queries -/

namespace Scanner

/-- A scan of a query succeeds on a query without bad index, or it rejects the character at
the first bad index and stops there. -/
theorem tokenize_ofQuery_cases (query : String) :
    (∃ ts, (ofQuery query).tokenize.1 = .ok ts ∧ ∀ i, ¬BadIndex query.toList i) ∨
      ∃ i c, FirstBad query.toList i ∧ query.toList[i]? = some c ∧
        (ofQuery query).tokenize.1 = .error ⟨c, i⟩ ∧ (ofQuery query).tokenize.2.position = i := by
  obtain ⟨ls, rest, hm, hrest⟩ := exists_munch (ofQuery query).rest
  have hpos : (ofQuery query).position = 0 := rfl
  cases rest with
  | nil => exact Or.inl ⟨_, tokenize_eq_ok_of_munch hm, hm.not_badIndex_of_nil⟩
  | cons c cs =>
      obtain ⟨hfirst, hc⟩ := hm.firstBad hrest
      have herr := tokenize_ofQuery_eq_error_of_munch hm hrest
      have hstop := (tokenize_of_munch hm hrest).2.2.1
      rw [hpos, Nat.zero_add] at hstop
      exact Or.inr ⟨_, c, hfirst, hc, herr, hstop⟩

/-- **The rejected queries.** A scan fails exactly if the query has a bad index. It then
rejects the character at the first bad index, with that index as its position, and leaves
the scanner in front of the character. -/
theorem tokenize_ofQuery_eq_error_iff (query : String) :
    ((∃ r, (ofQuery query).tokenize.1 = .error r) ↔ ∃ i, BadIndex query.toList i) ∧
    (∀ r, (ofQuery query).tokenize.1 = .error r ↔
      FirstBad query.toList r.position ∧ query.toList[r.position]? = some r.character) ∧
    (∀ i, FirstBad query.toList i → (ofQuery query).tokenize.2.position = i) := by
  rcases tokenize_ofQuery_cases query with ⟨ts, hok, hnone⟩ | ⟨i, c, hfirst, hc, herr, hstop⟩
  · refine ⟨?_, ?_, fun i hi => absurd hi.1 (hnone i)⟩
    · constructor
      · rintro ⟨r, hr⟩
        exact absurd (hok.symm.trans hr) (by simp)
      · rintro ⟨i, hi⟩
        exact absurd hi (hnone i)
    · intro r
      constructor
      · intro hr
        exact absurd (hok.symm.trans hr) (by simp)
      · rintro ⟨hr, -⟩
        exact absurd hr.1 (hnone r.position)
  · refine ⟨⟨fun _ => ⟨i, hfirst.1⟩, fun _ => ⟨⟨c, i⟩, herr⟩⟩, ?_, ?_⟩
    · intro r
      constructor
      · intro hr
        obtain rfl : (⟨c, i⟩ : Rejection) = r := Except.error.inj (herr.symm.trans hr)
        exact ⟨hfirst, hc⟩
      · rintro ⟨hr, hchar⟩
        obtain rfl : i = r.position := hfirst.unique hr
        obtain rfl : c = r.character := Option.some.inj (hc.symm.trans hchar)
        exact herr
    · intro j hj
      rw [hstop]
      exact hfirst.unique hj

end Scanner

end QueryScan
