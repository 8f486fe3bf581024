import QueryScan.Proofs.BadIndex
import QueryScan.Text.UpperCase

/-!
# The Case Table

The case rules speak of some two thousand characters; every other character is its own upper
case. `caseTable` lists the former, each with what it is mapped to, so that a property of all
characters and their upper cases is a check over the table and an argument about characters
that stay as they are (`upperChar_eq_self_or_mem`).

## Conventions

The table has an entry for each member of the range of a rule, also for the members that an
alternating rule leaves alone.

## Main results

* `upperCase_upperCase`: upper-casing twice is upper-casing once.
* `isLetter_or_foreign_of_mem_upperChar`: a letter is upper-cased to letters and to characters
  that are foreign to queries. The latter do occur: combining marks that letters are taken apart
  into, and capitals that are younger than the table of letters.
-/

namespace QueryScan

namespace Span

variable {α : Type}

/-- The members of the range, in order. -/
def members (s : Span α) : List Nat :=
  List.range' s.first (s.last + 1 - s.first)

/-- The members of the range are the numbers that it covers. -/
theorem mem_members_iff {s : Span α} {n : Nat} : n ∈ s.members ↔ s.Covers n := by
  rw [members, List.mem_range'_1, Covers]
  omega

end Span

/-- The **case table**: the characters that the case rules speak of, each with its upper
case. -/
def caseTable : List (Char × List Char) :=
  upperRuleSpans.flatMap fun span =>
    span.members.map fun n => (Char.ofNat n, span.value.apply span.first (Char.ofNat n))

/-- **The table is complete**: a character that is not in it is its own upper case. -/
theorem upperChar_eq_self_or_mem (c : Char) :
    upperChar c = [c] ∨ (c, upperChar c) ∈ caseTable := by
  unfold upperChar
  cases hspan : upperRules.find? c.toNat with
  | none => exact Or.inl rfl
  | some span =>
      obtain ⟨hmem, hcovers⟩ := RangeMap.mem_of_find? hspan
      rw [upperRules, RangeMap.toList_ofList] at hmem
      refine Or.inr (List.mem_flatMap.mpr ⟨span, hmem, ?_⟩)
      refine List.mem_map.mpr ⟨c.toNat, Span.mem_members_iff.mpr hcovers, ?_⟩
      rw [Char.ofNat_toNat]

/-- A character of an upper case is the upper-cased character itself, which then stays as it is,
or the table has it. -/
theorem mem_upperChar_cases {c d : Char} (hd : d ∈ upperChar c) :
    d = c ∧ upperChar c = [c] ∨ ∃ cs, (c, cs) ∈ caseTable ∧ d ∈ cs := by
  rcases upperChar_eq_self_or_mem c with hself | hmem
  · rw [hself] at hd
    exact Or.inl ⟨List.mem_singleton.mp hd, hself⟩
  · exact Or.inr ⟨upperChar c, hmem, hd⟩

/-- The upper case of an ASCII character is its capital, which belongs to a word if the character
does. -/
theorem upperChar_of_ascii {c : Char} (h : c.toNat < 128) :
    upperChar c = [c.toUpper] ∧ (isWordChar c = true → isWordChar c.toUpper = true) := by
  have hascii : ∀ n < 128, upperChar (Char.ofNat n) = [(Char.ofNat n).toUpper] ∧
      (isWordChar (Char.ofNat n) = true → isWordChar (Char.ofNat n).toUpper = true) := by
    decide +kernel
  have hchar := hascii c.toNat h
  rwa [Char.ofNat_toNat] at hchar

/-! ### Upper case stays as it is -/

/-- Each character of an upper case in the table is its own upper case. -/
theorem upperChar_of_mem_caseTable {c d : Char} {cs : List Char} (h : (c, cs) ∈ caseTable)
    (hd : d ∈ cs) : upperChar d = [d] := by
  have hall : (caseTable.all fun entry => entry.2.all fun d => upperChar d == [d]) = true := by
    decide +kernel
  have hentry := List.all_eq_true.mp hall (c, cs) h
  exact eq_of_beq (List.all_eq_true.mp hentry d hd)

/-- Each character of an upper case is its own upper case. -/
theorem upperChar_of_mem_upperChar {c d : Char} (h : d ∈ upperChar c) : upperChar d = [d] := by
  rcases mem_upperChar_cases h with ⟨rfl, hself⟩ | ⟨cs, hmem, hd⟩
  · exact hself
  · exact upperChar_of_mem_caseTable hmem hd

/-- A text whose characters are their own upper case is its own upper case. -/
theorem upperCase_eq_self {cs : List Char} (h : ∀ c ∈ cs, upperChar c = [c]) :
    upperCase cs = cs := by
  induction cs with
  | nil => rfl
  | cons c cs ih =>
      rw [upperCase_cons, h c (by simp), ih fun d hd => h d (by simp [hd])]
      rfl

/-- **Upper-casing twice is upper-casing once.** -/
@[simp] theorem upperCase_upperCase (cs : List Char) : upperCase (upperCase cs) = upperCase cs := by
  refine upperCase_eq_self ?_
  intro d hd
  obtain ⟨c, -, hc⟩ := List.mem_flatMap.mp hd
  exact upperChar_of_mem_upperChar hc

/-! ### What letters become -/

/-- An upper case in the table has no digit, no operator, no punctuation mark and no underscore:
what is no letter in it is foreign to queries. -/
theorem isLetter_or_foreign_of_mem_caseTable {c d : Char} {cs : List Char}
    (h : (c, cs) ∈ caseTable) (hd : d ∈ cs) : isLetter d = true ∨ Foreign d := by
  have hall : (caseTable.all fun entry =>
      entry.2.all fun d => isLetter d || (classes d).isEmpty && d != '_') = true := by
    decide +kernel
  have hentry := List.all_eq_true.mp hall (c, cs) h
  have hd' : isLetter d = true ∨ classes d = [] ∧ d ≠ '_' := by
    simpa using List.all_eq_true.mp hentry d hd
  refine hd'.imp_right ?_
  rintro ⟨hclasses, hu⟩
  exact (classes_eq_nil_iff.mp hclasses).resolve_right hu

/-- **A letter** is upper-cased to letters and to characters that are foreign to queries. -/
theorem isLetter_or_foreign_of_mem_upperChar {c d : Char} (hc : isLetter c = true)
    (hd : d ∈ upperChar c) : isLetter d = true ∨ Foreign d := by
  rcases mem_upperChar_cases hd with ⟨rfl, -⟩ | ⟨cs, hmem, hd⟩
  · exact Or.inl hc
  · exact isLetter_or_foreign_of_mem_caseTable hmem hd

/-- A character of a word is upper-cased to characters of words and to characters that are
foreign to queries. -/
theorem isWordChar_or_foreign_of_mem_upperChar {c d : Char} (hc : isWordChar c = true)
    (hd : d ∈ upperChar c) : isWordChar d = true ∨ Foreign d := by
  rcases mem_upperChar_cases hd with ⟨rfl, -⟩ | ⟨cs, hmem, hd⟩
  · exact Or.inl hc
  · refine (isLetter_or_foreign_of_mem_caseTable hmem hd).imp_left ?_
    intro hl
    rw [isWordChar, hl]
    rfl

end QueryScan
