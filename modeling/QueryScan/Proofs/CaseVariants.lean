import Mathlib.Data.List.Forall2
import QueryScan.Proofs.CaseTable
import QueryScan.Proofs.Journal
import QueryScan.Proofs.Restart
import QueryScan.Proofs.ShortestForm
import QueryScan.Proofs.Spelling

/-!
# Case Variants

A query may be written in capitals or in small letters. Two texts are **case variants** if they
have as many characters and each is the same in both, or a letter in both with the same upper
case. A scanner does not tell them apart: it asks whether a character is a letter, a digit, an
operator, a punctuation mark or an underscore, and a letter is a letter in any case; the text of
a word is its upper case; and a character that is rejected is no letter, so it is the same in both
texts, at the same place.

Two scanners of case variants are kept in lockstep (`Scanner.lockstep_variants`), which is a fact
about one call for the next token.

The size of a query is counted in bytes, and case variants may differ in size: the micro sign
takes two bytes and the capital mu too, but the long s takes two and the capital `S` one. With
ASCII letters only, nothing is left by which a query could be told from a case variant, and its
records are the same too.

## Main results

* `Lexeme.exists_first?_of_caseVariants`: the first lexemes of case variants make the same token.
* `Scanner.session_eq_of_caseVariants`: **case does not matter**, to a scanner and to those who
  read the trace.
-/

namespace QueryScan

open Lexeme

/-! ### Variants of characters -/

/-- A character is a **case variant** of another if they are the same, or both are letters and
have the same upper case. -/
def CaseVariant (c d : Char) : Prop :=
  c = d ∨ isLetter c = true ∧ isLetter d = true ∧ upperChar c = upperChar d

instance (c d : Char) : Decidable (CaseVariant c d) :=
  inferInstanceAs (Decidable (c = d ∨ isLetter c = true ∧ isLetter d = true ∧ _))

/-- Texts are **case variants** if they have as many characters, each a case variant of the one
at its place. -/
def CaseVariants (cs ds : List Char) : Prop :=
  List.Forall₂ CaseVariant cs ds

instance (cs ds : List Char) : Decidable (CaseVariants cs ds) :=
  inferInstanceAs (Decidable (List.Forall₂ _ _ _))

namespace CaseVariant

variable {c d : Char}

/-- Case variants belong to the same classes: to one and the same, if they are letters. -/
theorem holds_eq (h : CaseVariant c d) (k : CharClass) : k.holds c = k.holds d := by
  rcases h with rfl | ⟨hc, hd, -⟩
  · rfl
  · have hc' : CharClass.letter.holds c = true := hc
    have hd' : CharClass.letter.holds d = true := hd
    rw [CharClass.holds_eq_beq hc', CharClass.holds_eq_beq hd']

/-- Case variants continue the same lexemes. -/
theorem continues_eq (h : CaseVariant c d) (k : CharClass) : k.continues c = k.continues d := by
  rcases h with rfl | ⟨hc, hd, -⟩
  · rfl
  · have hc' : CharClass.letter.holds c = true := hc
    have hd' : CharClass.letter.holds d = true := hd
    rw [CharClass.continues_eq_meets hc', CharClass.continues_eq_meets hd']

/-- Case variants have the same upper case. -/
theorem upperChar_eq (h : CaseVariant c d) : upperChar c = upperChar d := by
  rcases h with rfl | ⟨-, -, hupper⟩
  · rfl
  · exact hupper

/-- What is no letter has itself as its only case variant. -/
theorem eq_of_not_isLetter (h : CaseVariant c d) (hc : isLetter c = false) : c = d := by
  rcases h with rfl | ⟨hc', -, -⟩
  · rfl
  · exact absurd hc' (by simp [hc])

end CaseVariant

/-! ### Variants of texts -/

/-- Lists that are related member by member have related front parts on which a condition holds,
and related parts behind them, if the condition does not tell related members apart. -/
theorem forall₂_takeWhile_dropWhile {α : Type} {R : α → α → Prop} {p : α → Bool}
    (hp : ∀ a b, R a b → p a = p b) {as bs : List α} (h : List.Forall₂ R as bs) :
    List.Forall₂ R (as.takeWhile p) (bs.takeWhile p) ∧
      List.Forall₂ R (as.dropWhile p) (bs.dropWhile p) := by
  induction h with
  | nil => exact ⟨List.Forall₂.nil, List.Forall₂.nil⟩
  | @cons a b as bs hab hrest ih =>
      rw [List.takeWhile_cons, List.takeWhile_cons, List.dropWhile_cons, List.dropWhile_cons,
        hp a b hab]
      split
      · exact ⟨List.Forall₂.cons hab ih.1, ih.2⟩
      · exact ⟨List.Forall₂.nil, List.Forall₂.cons hab hrest⟩

namespace CaseVariants

variable {cs ds : List Char}

/-- Case variants have the same upper case. -/
theorem upperCase_eq (h : CaseVariants cs ds) : upperCase cs = upperCase ds := by
  induction h with
  | nil => rfl
  | cons hcd _ ih => rw [upperCase_cons, upperCase_cons, hcd.upperChar_eq, ih]

/-- A text without letters has itself as its only case variant. -/
theorem eq_of_not_isLetter (h : CaseVariants cs ds) (hcs : ∀ c ∈ cs, isLetter c = false) :
    cs = ds := by
  induction h with
  | nil => rfl
  | @cons c d cs ds hcd _ ih =>
      rw [hcd.eq_of_not_isLetter (hcs c (by simp)), ih fun e he => hcs e (by simp [he])]

end CaseVariants

namespace Lexeme

/-- Lexemes that are case variants make the same token: a word makes its upper case, and others
have no letters. -/
theorem token_eq_of_caseVariants {l m : Lexeme} (hw : l.WellFormed) (hstart : l.start = m.start)
    (h : CaseVariants l.chars m.chars) : l.token = m.token := by
  obtain ⟨k, cs⟩ := l
  obtain ⟨k', ds⟩ := m
  obtain rfl : k = k' := hstart
  by_cases hk : k = .letter
  · subst hk
    have hupper : upperCase cs = upperCase ds := h.upperCase_eq
    simp only [token, wordToken, hupper]
  · have hcs : ∀ c ∈ cs, isLetter c = false := fun c hc =>
      CharClass.holds_eq_false (hw.holds_of_mem hk hc) .letter (Ne.symm hk)
    rw [show cs = ds from h.eq_of_not_isLetter hcs]

/-- **The first lexemes** of case variants make the same token of as many characters, and what
follows them are case variants again. -/
theorem exists_first?_of_caseVariants {cs ds rest : List Char} {l : Lexeme}
    (h : CaseVariants cs ds) (hf : first? cs = some (l, rest)) :
    ∃ m rest', first? ds = some (m, rest') ∧ l.token = m.token ∧ l.length = m.length ∧
      CaseVariants rest rest' := by
  have hw := wellFormed_of_first? hf
  obtain ⟨c, tail, rfl, hc, hchars, rfl⟩ := exists_of_first? hf
  cases h with
  | @cons _ d _ tail' hcd htail =>
      obtain ⟨htake, hdrop⟩ :=
        forall₂_takeWhile_dropWhile (fun a b hab => hab.continues_eq l.start) htail
      have hvariants : CaseVariants l.chars (d :: tail'.takeWhile l.start.continues) := by
        rw [hchars]
        exact List.Forall₂.cons hcd htake
      have hd : l.start.holds d = true := (hcd.holds_eq l.start).symm.trans hc
      exact ⟨_, _, first?_cons_of_holds hd tail', token_eq_of_caseVariants hw rfl hvariants,
        hvariants.length_eq, hdrop⟩

end Lexeme

/-! ### Two scanners -/

namespace Scanner

/-- The scanners stand at the same position, with case variants ahead. -/
def Variants (s f : Scanner) : Prop :=
  CaseVariants s.rest f.rest ∧ s.position = f.position

/-- **One call**: scanners of case variants are kept in lockstep. -/
theorem lockstep_variants : Lockstep 0 Variants where
  position_eq h := by rw [h.2, Nat.zero_add]
  next := by
    rintro s f ⟨hrest, hpos⟩
    rcases s.next_cases with ⟨l, rest, hf, hn⟩ | ⟨hr, hn⟩ | ⟨c, cs, hr, hc, hn⟩
    · obtain ⟨m, rest', hf', htoken, hlength, hvariants⟩ := exists_first?_of_caseVariants hrest hf
      rw [hn, next_of_first? hf', htoken]
      refine ⟨rfl, hvariants, ?_⟩
      change s.position + l.length = f.position + m.length
      rw [hpos, hlength]
    · have hr' : f.rest = [] := by simpa [CaseVariants, hr] using hrest
      rw [hn, next_of_rest_nil hr']
      exact ⟨rfl, hrest, hpos⟩
    · -- what is rejected is no letter, so both scanners reject the same character
      obtain ⟨d, ds, hcd, -, hr'⟩ := List.forall₂_cons_left_iff.mp (hr ▸ hrest)
      have hletter : isLetter c = false := CharClass.holds_eq_false_of_classes hc .letter
      obtain rfl : c = d := hcd.eq_of_not_isLetter hletter
      rw [hn, next_of_rest_cons hr' hc, hpos]
      exact ⟨congrArg Except.error (Rejection.shift_zero _).symm, hrest, hpos⟩

variable {a b : String}

/-- Scanners at the start of two case variants. -/
theorem variants_ofQuery (h : CaseVariants a.toList b.toList) : Variants (ofQuery a) (ofQuery b) :=
  ⟨h, rfl⟩

/-- Case variants have the same stream. -/
theorem stream_eq_of_caseVariants (h : CaseVariants a.toList b.toList) :
    (ofQuery a).stream = (ofQuery b).stream := by
  have hlength : (ofQuery a).rest.length = (ofQuery b).rest.length := h.length_eq
  rw [stream, stream, hlength, lockstep_variants.nexts_eq (variants_ofQuery h)]

/-- Case variants have the same tokens, or the same rejection. -/
theorem tokenize_eq_of_caseVariants (h : CaseVariants a.toList b.toList) :
    (ofQuery a).tokenize.1 = (ofQuery b).tokenize.1 := by
  have hsession := lockstep_variants.session_eq (variants_ofQuery h) [.tokenize]
  rw [session_cons, session_cons] at hsession
  exact Reply.tokenize.inj (congrArg Prod.fst (List.cons.inj hsession).1)

end Scanner

/-! ### ASCII letters -/

/-- Texts are **ASCII variants** if they have as many characters, each the same or an ASCII letter
in whatever case. -/
def AsciiVariants : List Char → List Char → Prop :=
  List.Forall₂ fun c d => c = d ∨ c.isAlpha = true ∧ d.isAlpha = true ∧ c.toUpper = d.toUpper

instance (cs ds : List Char) : Decidable (AsciiVariants cs ds) :=
  inferInstanceAs (Decidable (List.Forall₂ _ _ _))

namespace AsciiVariants

variable {cs ds : List Char}

/-- ASCII variants are case variants. -/
theorem caseVariants (h : AsciiVariants cs ds) : CaseVariants cs ds := by
  refine List.Forall₂.imp ?_ h
  rintro c d (rfl | ⟨hc, hd, hupper⟩)
  · exact Or.inl rfl
  · refine Or.inr ⟨isLetter_of_isAlpha hc, isLetter_of_isAlpha hd, ?_⟩
    rw [(upperChar_of_ascii (toNat_lt_of_isAlpha hc)).1,
      (upperChar_of_ascii (toNat_lt_of_isAlpha hd)).1, hupper]

/-- ASCII variants take as many bytes. -/
theorem length_encode_eq (h : AsciiVariants cs ds) :
    (Utf8.encode cs).length = (Utf8.encode ds).length := by
  induction h with
  | nil => rfl
  | @cons c d cs ds hcd _ ih =>
      have hchar : (Utf8.encodeChar c).length = (Utf8.encodeChar d).length := by
        rcases hcd with rfl | ⟨hc, hd, -⟩
        · rfl
        · rw [Utf8.encodeChar_one (toNat_lt_of_isAlpha hc),
            Utf8.encodeChar_one (toNat_lt_of_isAlpha hd)]
          rfl
      rw [Utf8.encode, Utf8.encode] at ih ⊢
      rw [List.flatMap_cons, List.flatMap_cons, List.length_append, List.length_append, hchar, ih]

end AsciiVariants

/-! ### Queries and their traces -/

namespace Query

/-- The check looks at the size only. -/
theorem validate_congr {a b : String} (h : a.utf8ByteSize = b.utf8ByteSize) :
    validate a = validate b := by
  rw [validate, validate, h]

/-- Case variants of the same size have the same tokens, or are refused for the same reason. -/
theorem tokenize_eq_of_caseVariants {a b : String} (h : CaseVariants a.toList b.toList)
    (hsize : a.utf8ByteSize = b.utf8ByteSize) : tokenize a = tokenize b := by
  rw [tokenize, tokenize, validate_congr hsize, Scanner.tokenize_eq_of_caseVariants h]

end Query

namespace Log

/-- Case variants of the same size leave the same records. -/
theorem queryRecords_eq_of_caseVariants {a b : String} (h : CaseVariants a.toList b.toList)
    (hsize : a.utf8ByteSize = b.utf8ByteSize) : queryRecords a = queryRecords b := by
  have hevents : queryEvents a = queryEvents b := by
    rw [queryEvents, queryEvents, Query.validate_congr hsize,
      Query.tokenize_eq_of_caseVariants h hsize, Scanner.stream_eq_of_caseVariants h]
  rw [queryRecords, queryRecords, hsize, hevents]

end Log

namespace Scanner

/-- **Case does not matter.** Let two texts be case variants, so that they have as many characters
and each is the same in both, or a letter in both with the same upper case.

* Whatever calls are made of scanners of the two, they give the same tokens and the same
  rejections, and stand at the same position after each call.
* If only ASCII letters differ, both queries have the same tokens, or are refused for the same
  reason, and leave the same records at every level. -/
theorem session_eq_of_caseVariants {a b : String} (h : CaseVariants a.toList b.toList) :
    (∀ calls, (ofQuery a).session calls = (ofQuery b).session calls) ∧
    (AsciiVariants a.toList b.toList →
      Query.tokenize a = Query.tokenize b ∧
      ∀ level, Log.trace level [.tokenize a] = Log.trace level [.tokenize b]) := by
  refine ⟨lockstep_variants.session_eq (variants_ofQuery h), ?_⟩
  intro hascii
  have hsize : a.utf8ByteSize = b.utf8ByteSize := by
    rw [← Utf8.length_encode, ← Utf8.length_encode, hascii.length_encode_eq]
  refine ⟨Query.tokenize_eq_of_caseVariants h hsize, ?_⟩
  intro level
  have hrecords : Log.records [.tokenize a] = Log.records [.tokenize b] := by
    rw [Log.records, Log.records, List.flatMap_singleton, List.flatMap_singleton,
      Log.records_eq_account, Log.records_eq_account]
    exact Log.queryRecords_eq_of_caseVariants h hsize
  rw [Log.trace, Log.trace, hrecords]

/-- The micro sign goes with the capital mu and the long s with the capital `S`, also when a
character is rejected after them. The second pair of queries differs in ASCII letters only. -/
theorem session_micro_sign :
    CaseVariants "µ=ſ#".toList "Μ=S#".toList ∧
    (ofQuery "µ=ſ#").session [.next, .tokenize, .next] =
      (ofQuery "Μ=S#").session [.next, .tokenize, .next] ∧
    AsciiVariants "select(a)".toList "SeLecT(A)".toList ∧
    Query.tokenize "select(a)" = Query.tokenize "SeLecT(A)" ∧
    Log.trace .trace [.tokenize "select(a)"] = Log.trace .trace [.tokenize "SeLecT(A)"] := by
  have hletters : CaseVariants "µ=ſ#".toList "Μ=S#".toList := by decide +kernel
  have hascii : AsciiVariants "select(a)".toList "SeLecT(A)".toList := by decide +kernel
  obtain ⟨htokens, htrace⟩ := (session_eq_of_caseVariants hascii.caseVariants).2 hascii
  exact ⟨hletters, (session_eq_of_caseVariants hletters).1 _, hascii, htokens, htrace .trace⟩

end Scanner

end QueryScan
