import QueryScan.Query.Error

/-!
# Queries

A query is a text that is neither empty nor longer than one mebibyte, counted in bytes of
its UTF-8 form. Only a text of that size is scanned: the length is checked first, so an
oversized text is refused for its size, whatever characters it has.

## Main results

* `Query.validate_eq_ok_iff`: exactly the texts of 1 to 1048576 bytes pass the check.
* `Query.tokenize_of_validate_ok`, `Query.tokenize_of_validate_error`: tokenizing is the
  check followed by the scan.
-/

namespace QueryScan

namespace Query

/-- The version of the interface. -/
def version : String := "0.1.0"

/-- The greatest number of bytes that a query may have. -/
def maxLength : Nat := 1024 * 1024

/-- Checks the length of a query, in bytes. -/
def validate (query : String) : Except QueryError Unit :=
  if query.utf8ByteSize = 0 then
    .error (.invalidInput "Query cannot be empty")
  else if maxLength < query.utf8ByteSize then
    .error (.invalidInput ("Query length " ++ toString query.utf8ByteSize ++
      " exceeds maximum " ++ toString maxLength))
  else
    .ok ()

/-- The tokens of a query, ending with the end mark. -/
def tokenize (query : String) : Except QueryError (List Token) :=
  match validate query with
  | .error e => .error e
  | .ok () => (Scanner.ofQuery query).tokenize.1.mapError .rejected

/-- Exactly the texts of 1 to `maxLength` bytes pass the check. -/
theorem validate_eq_ok_iff {query : String} :
    validate query = .ok () ↔ 0 < query.utf8ByteSize ∧ query.utf8ByteSize ≤ maxLength := by
  unfold validate
  split
  · simp_all
  · split
    · simp; omega
    · simp; omega

/-- A query that fails the check is refused for the reason that the check gives. -/
theorem tokenize_of_validate_error {query : String} {e : QueryError}
    (h : validate query = .error e) : tokenize query = .error e := by
  simp [tokenize, h]

/-- A query that passes the check is scanned from its start. -/
theorem tokenize_of_validate_ok {query : String} (h : validate query = .ok ()) :
    tokenize query = (Scanner.ofQuery query).tokenize.1.mapError .rejected := by
  simp [tokenize, h]

end Query

end QueryScan
