import QueryScan.Proofs.BadIndex
import QueryScan.Proofs.ShortestForm
import QueryScan.Query.Basic

/-!
# The Check Before the Scan

A query is refused for its size before any of its characters is looked at, and rejected for a
character only if its size is allowed. The size counts bytes, and the position of a rejected
character counts characters. A text has no more characters than bytes, so every position lies
below the limit; the converse fails, and a text of few characters may be refused for its bytes.

## Main results

* `Query.validate_eq_error_iff`: the texts that fail the check, and why.
* `Query.tokenize_eq_error_invalidInput_iff`, `Query.tokenize_eq_error_rejected_iff`: the two
  ways in which a query is refused.
* `Query.tokenize_refines_scan`: **the check comes first**, and a query that passes it is
  scanned with nothing changed but the name of the error.
-/

namespace QueryScan

/-- A text has no more characters than bytes. -/
theorem length_le_utf8ByteSize (s : String) : s.length ≤ s.utf8ByteSize := by
  have hlist : ∀ cs : List Char, cs.length ≤ (Utf8.encode cs).length := by
    intro cs
    induction cs with
    | nil => exact Nat.le_refl _
    | cons c cs ih =>
        have hc := c.utf8Size_pos
        rw [Utf8.encode, List.flatMap_cons, List.length_append, Utf8.length_encodeChar,
          List.length_cons]
        rw [Utf8.encode] at ih
        omega
  rw [← Utf8.length_encode, ← String.length_toList]
  exact hlist s.toList

/-- The position of a rejected character is the index at which the query has it. -/
theorem Scanner.getElem?_of_tokenize_eq_error {query : String} {r : Rejection}
    (h : (ofQuery query).tokenize.1 = .error r) : query.toList[r.position]? = some r.character := by
  rcases tokenize_ofQuery_cases query with ⟨ts, hok, -⟩ | ⟨i, c, -, hc, herr, -⟩
  · exact absurd (hok.symm.trans h) (by simp)
  · obtain rfl : (⟨c, i⟩ : Rejection) = r := Except.error.inj (herr.symm.trans h)
    exact hc

namespace Query

/-! ### The check -/

/-- Why a query of so many bytes is too long. -/
def tooLong (bytes : Nat) : String :=
  "Query length " ++ toString bytes ++ " exceeds maximum 1048576"

/-- The size of a query is **allowed** if it has a byte and no more than 1048576 of them. -/
def SizeAllowed (query : String) : Prop :=
  0 < query.utf8ByteSize ∧ query.utf8ByteSize ≤ 1048576

/-- **The texts that fail the check** are those without a byte and those with more than 1048576
of them, and the reason says which. -/
theorem validate_eq_error_iff {query : String} {e : QueryError} :
    validate query = .error e ↔
      query.utf8ByteSize = 0 ∧ e = .invalidInput "Query cannot be empty" ∨
      1048576 < query.utf8ByteSize ∧ e = .invalidInput (tooLong query.utf8ByteSize) := by
  have hmax : maxLength = 1048576 := rfl
  have hreason : "Query length " ++ toString query.utf8ByteSize ++ " exceeds maximum " ++
      toString maxLength = tooLong query.utf8ByteSize := by
    have hlimit : " exceeds maximum " ++ toString maxLength = " exceeds maximum 1048576" := by
      decide +kernel
    rw [String.append_assoc, hlimit, tooLong]
  rw [validate, hreason, hmax]
  split
  · rename_i h
    have hle : ¬1048576 < query.utf8ByteSize := by omega
    rw [Except.error.injEq, and_iff_right h, or_iff_left (fun hlt => hle hlt.1)]
    exact eq_comm
  · rename_i h
    split
    · rename_i hlt
      rw [Except.error.injEq, and_iff_right hlt, or_iff_right (fun h0 => h h0.1)]
      exact eq_comm
    · rename_i hle
      simp only [reduceCtorEq, h, hle, false_and, or_self]

/-- A query fails the check for a reason, and no other error. -/
theorem exists_reason_of_validate_eq_error {query : String} {e : QueryError}
    (h : validate query = .error e) : ∃ reason, e = .invalidInput reason := by
  rcases validate_eq_error_iff.mp h with ⟨-, rfl⟩ | ⟨-, rfl⟩ <;> exact ⟨_, rfl⟩

/-- The check passes exactly if the size is allowed. -/
theorem validate_eq_ok_iff_sizeAllowed {query : String} :
    validate query = .ok () ↔ SizeAllowed query :=
  validate_eq_ok_iff

/-! ### The two ways in which a query is refused -/

/-- The three outcomes for a query: it fails the check, or it passes and the scan rejects a
character, or it passes and the scan reaches the end. -/
theorem tokenize_cases (query : String) :
    (∃ reason, validate query = .error (.invalidInput reason) ∧
      tokenize query = .error (.invalidInput reason)) ∨
    (∃ r, validate query = .ok () ∧ (Scanner.ofQuery query).tokenize.1 = .error r ∧
      tokenize query = .error (.rejected r)) ∨
    ∃ ts, validate query = .ok () ∧ (Scanner.ofQuery query).tokenize.1 = .ok ts ∧
      tokenize query = .ok ts := by
  cases hv : validate query with
  | error e =>
      obtain ⟨reason, rfl⟩ := exists_reason_of_validate_eq_error hv
      exact Or.inl ⟨reason, rfl, tokenize_of_validate_error hv⟩
  | ok _ =>
      refine Or.inr ?_
      rw [tokenize_of_validate_ok hv]
      cases (Scanner.ofQuery query).tokenize.1 with
      | error r => exact Or.inl ⟨r, rfl, rfl, rfl⟩
      | ok ts => exact Or.inr ⟨ts, rfl, rfl, rfl⟩

/-- A query is refused without a scan exactly if it fails the check, and for the same reason. -/
theorem tokenize_eq_error_invalidInput_iff {query reason : String} :
    tokenize query = .error (.invalidInput reason) ↔
      validate query = .error (.invalidInput reason) := by
  rcases tokenize_cases query with ⟨reason', hv, ht⟩ | ⟨r, hv, -, ht⟩ | ⟨ts, hv, -, ht⟩
  · simp [hv, ht]
  · simp [hv, ht]
  · simp [hv, ht]

/-- A query is refused for a character exactly if it passes the check and the scan rejects the
character. -/
theorem tokenize_eq_error_rejected_iff {query : String} {r : Rejection} :
    tokenize query = .error (.rejected r) ↔
      SizeAllowed query ∧ (Scanner.ofQuery query).tokenize.1 = .error r := by
  rw [← validate_eq_ok_iff_sizeAllowed]
  rcases tokenize_cases query with ⟨reason, hv, ht⟩ | ⟨r', hv, hs, ht⟩ | ⟨ts, hv, hs, ht⟩
  · simp [hv, ht]
  · simp [hv, hs, ht]
  · simp [hv, hs, ht]

/-! ### Refinement -/

/-- **The check comes first.** Let a query have so many bytes and so many characters.

* It is refused as an invalid input for the reasons for which it fails the check, and this
  happens exactly if it has no byte or more than 1048576 of them, whatever its characters are.
* Otherwise its tokens are those of the scan, or it is refused for the rejection of the scan.
* That rejection names the character that the query has at its position, which is less than the
  number of characters, which is no more than the number of bytes, which is no more than
  1048576; and it is the cause behind the error, with a message of its own. -/
theorem tokenize_refines_scan (query : String) :
    (∀ reason, tokenize query = .error (.invalidInput reason) ↔
      validate query = .error (.invalidInput reason)) ∧
    ((∃ reason, validate query = .error (.invalidInput reason)) ↔
      query.utf8ByteSize = 0 ∨ 1048576 < query.utf8ByteSize) ∧
    (¬(query.utf8ByteSize = 0 ∨ 1048576 < query.utf8ByteSize) →
      tokenize query = (Scanner.ofQuery query).tokenize.1.mapError .rejected ∧
      ∀ e, tokenize query = .error e → ∃ r : Rejection, e = .rejected r ∧
        r.position < query.length ∧ query.length ≤ query.utf8ByteSize ∧
        query.utf8ByteSize ≤ 1048576 ∧ query.toList[r.position]? = some r.character ∧
        ∃ cause, e.cause? = some cause ∧ cause.message =
          "Unexpected character: '" ++ r.character.toString ++ "' at position " ++
            toString r.position) := by
  refine ⟨fun reason => tokenize_eq_error_invalidInput_iff, ?_, ?_⟩
  · simp only [validate_eq_error_iff]
    constructor
    · rintro ⟨reason, ⟨h, -⟩ | ⟨h, -⟩⟩
      · exact Or.inl h
      · exact Or.inr h
    · rintro (h | h)
      · exact ⟨_, Or.inl ⟨h, rfl⟩⟩
      · exact ⟨_, Or.inr ⟨h, rfl⟩⟩
  · intro hsize
    have hallowed : SizeAllowed query := by
      rw [SizeAllowed]
      omega
    have hscan := tokenize_of_validate_ok (validate_eq_ok_iff_sizeAllowed.mpr hallowed)
    refine ⟨hscan, ?_⟩
    intro e he
    cases e with
    | invalidInput reason =>
        have hv := tokenize_eq_error_invalidInput_iff.mp he
        rw [validate_eq_ok_iff_sizeAllowed.mpr hallowed] at hv
        exact absurd hv (by simp)
    | rejected r =>
        obtain ⟨-, hs⟩ := tokenize_eq_error_rejected_iff.mp he
        have hr := Scanner.getElem?_of_tokenize_eq_error hs
        refine ⟨r, rfl, ?_, length_le_utf8ByteSize query, hallowed.2, hr, r, rfl, rfl⟩
        rw [← String.length_toList]
        exact (List.getElem?_eq_some_iff.mp hr).1

end Query

end QueryScan
