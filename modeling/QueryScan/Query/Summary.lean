import QueryScan.Query.Basic

/-!
# Summaries of token lists

For a large query the tokens themselves are of less interest than their number, how many
there are of each kind, and how much text they carry.

## Main results

* `Summary.count_eq`: the counts by kind add up to the number of tokens.
-/

namespace QueryScan

/-- The size of a list of tokens. -/
structure Summary where
  /-- The number of tokens, the end mark among them. -/
  count : Nat
  /-- The number of tokens of each kind. -/
  ofKind : List (Kind × Nat)
  /-- The number of characters of the longest text. -/
  longest : Nat
  /-- The number of bytes of all texts together. -/
  bytes : Nat
  deriving DecidableEq, Repr

namespace Summary

/-- The summary of a list of tokens. -/
def ofTokens (ts : List Token) : Summary where
  count := ts.length
  ofKind := Kind.all.map fun k => (k, ts.countP fun t => t.kind == k)
  longest := ts.foldl (fun n t => max n t.text.length) 0
  bytes := ts.foldl (fun n t => n + t.text.utf8ByteSize) 0

/-- The summary of the tokens of a query. -/
def ofQuery (query : String) : Except QueryError Summary :=
  (Query.tokenize query).map ofTokens

/-- The counts by kind add up to the number of tokens. -/
theorem count_eq (ts : List Token) :
    (ofTokens ts).count = (ofTokens ts).ofKind.foldr (fun p n => p.2 + n) 0 := by
  simp only [ofTokens, Kind.all, List.map_cons, List.map_nil, List.foldr_cons, List.foldr_nil]
  induction ts with
  | nil => rfl
  | cons t ts ih =>
    simp only [List.length_cons, List.countP_cons]
    rcases t with ⟨k, text⟩
    cases k <;> simp <;> omega

end Summary

end QueryScan
