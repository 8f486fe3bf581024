import QueryScan.Proofs.MaximalMunch

/-!
# Texts of Tokens

The text of a token is the upper case of a word or the lexeme as written. Upper-casing maps
a character to one or more characters and never to none, so a token of a well-formed lexeme
has a text that is not empty; the end mark is the only token without one.

## Main results

* `upperChar_ne_nil`: no character is upper-cased away.
* `Lexeme.WellFormed.token_text_ne_empty`, `Lexeme.length_le_length_text`: the token of a
  lexeme has a text, and one that is as long as the lexeme at least.
-/

namespace QueryScan

/-- The rule maps a character to at least one character. -/
def CaseRule.keeps : CaseRule → Bool
  | expand codes => !codes.isEmpty
  | _ => true

/-- A rule that maps a character to at least one character does so wherever it is applied. -/
theorem CaseRule.apply_ne_nil {rule : CaseRule} (h : rule.keeps = true) (first : Nat)
    (c : Char) : rule.apply first c ≠ [] := by
  cases rule with
  | all distance => simp [apply]
  | alternate distance =>
      simp only [apply]
      split <;> simp
  | expand codes => simpa [apply, keeps] using h

/-- Every rule of the table maps a character to at least one character. -/
theorem upperRules_keep :
    (upperRules.toList.all fun span : Span CaseRule => span.value.keeps) = true := by
  decide +kernel

/-- **The upper case of a character** has at least one character. -/
theorem upperChar_ne_nil (c : Char) : upperChar c ≠ [] := by
  unfold upperChar
  cases hspan : upperRules.find? c.toNat with
  | none => simp
  | some span =>
      have hmem := (RangeMap.mem_of_find? hspan).1
      exact CaseRule.apply_ne_nil (List.all_eq_true.mp upperRules_keep span hmem) _ c

/-- The upper case of a text is empty only for the empty text. -/
theorem upperCase_ne_nil {cs : List Char} (h : cs ≠ []) : upperCase cs ≠ [] := by
  obtain ⟨c, cs, rfl⟩ := List.exists_cons_of_ne_nil h
  rw [upperCase_cons]
  exact List.append_ne_nil_of_left_ne_nil (upperChar_ne_nil c) _

/-- Upper-casing makes no text shorter. -/
theorem length_le_length_upperCase (cs : List Char) : cs.length ≤ (upperCase cs).length := by
  induction cs with
  | nil => exact Nat.le_refl _
  | cons c cs ih =>
      have hc : 0 < (upperChar c).length := List.length_pos_iff.mpr (upperChar_ne_nil c)
      rw [upperCase_cons, List.length_append, List.length_cons]
      omega

namespace Lexeme

/-- The text of the token that a lexeme makes, as characters. -/
theorem toList_token_text (l : Lexeme) :
    l.token.text.toList = if l.start = .letter then upperCase l.chars else l.chars := by
  obtain ⟨start, chars⟩ := l
  cases start <;> simp [token, wordToken]

/-- The text of a token is as long as its lexeme at least. -/
theorem length_le_length_text (l : Lexeme) : l.length ≤ l.token.text.toList.length := by
  rw [l.toList_token_text]
  split
  · exact length_le_length_upperCase l.chars
  · exact Nat.le_refl _

/-- The token of a well-formed lexeme has a text. -/
theorem WellFormed.token_text_ne_empty {l : Lexeme} (h : l.WellFormed) : l.token.text ≠ "" := by
  intro hempty
  have hlist := l.toList_token_text
  rw [hempty] at hlist
  split at hlist
  · exact upperCase_ne_nil h.chars_ne_nil hlist.symm
  · exact h.chars_ne_nil hlist.symm

end Lexeme

end QueryScan
