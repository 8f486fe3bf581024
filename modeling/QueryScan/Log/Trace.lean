import QueryScan.Log.Event

/-!
# Traces

A trace is the list of records that some actions leave behind, in order. An action
tokenizes a query, scans a text to its end or to a rejection, or asks a scanner for its
next token a number of times.

A scanner that is asked once more than it has tokens does not move any further: it says
nothing at the end mark, and reports a rejection again at every call. Its records are known
from there on without asking.

## Main results

* `eventsOfNexts_eq`: what a scanner reports over some calls is what it reports at each of
  them, in order.
* `trace_append`: the trace of two lists of actions is the trace of the first and then that
  of the second.
* `mem_trace_iff`: a level leaves out the less severe records and nothing else.
-/

namespace QueryScan

namespace Log

/-- What is done, and leaves its records. -/
inductive Action where
  /-- A query is tokenized. -/
  | tokenize (query : String)
  /-- A text is scanned. -/
  | scan (text : String)
  /-- A scanner of the text is asked so many times for its next token. -/
  | next (text : String) (times : Nat)
  deriving DecidableEq, Repr

/-- What a scanner reports when it is asked for the next token. -/
def eventsOfNext : Except Rejection Token → List Event
  | .ok t => if t.isEnd then [] else [.token t]
  | .error r => [.rejected r]

/-- What a scanner reports when it is asked so many times for the next token: nothing from
the end mark on, and from a rejection on nothing but that rejection. -/
def eventsOfNexts (s : Scanner) : Nat → List Event
  | 0 => []
  | n + 1 =>
    match s.next with
    | (.ok t, s') => if t.isEnd then [] else .token t :: eventsOfNexts s' n
    | (.error r, _) => List.replicate (n + 1) (.rejected r)

/-- What a scanner reports when it reads to the end or to a rejection. -/
def eventsOfDrain (d : Scanner.Drain) : List Event :=
  (d.readings.filter fun r => !r.token.isEnd).map (fun r => .token r.token) ++
    d.rejection.toList.map .rejected

/-- What the tokenization of a query reports within its span: nothing if the query is not
scanned, and a count only if the scan reaches the end. -/
def eventsOfQuery (query : String) : List Event :=
  match Query.validate query with
  | .error _ => []
  | .ok () =>
    let d := (Scanner.ofQuery query).drain
    eventsOfDrain d ++ if d.rejection.isNone then [.tokenized d.readings.length] else []

/-- All records of an action. -/
def Action.records : Action → List Record
  | tokenize query =>
    .span query.utf8ByteSize :: .enter :: (eventsOfQuery query).map .event ++ [.exit]
  | scan text => (eventsOfDrain (Scanner.ofQuery text).drain).map .event
  | next text times => (eventsOfNexts (Scanner.ofQuery text) times).map .event

/-- All records of some actions, one action after the other. -/
def records (actions : List Action) : List Record :=
  actions.flatMap Action.records

/-- The records of some actions that are at least as severe as the level. -/
def trace (level : Level) (actions : List Action) : List Record :=
  (records actions).filter fun r => (Threshold.upTo level).allows r.level

/-- What a scanner reports over some calls is what it reports at each of them, in order. -/
theorem eventsOfNexts_eq (s : Scanner) (n : Nat) :
    eventsOfNexts s n = (s.nexts n).flatMap eventsOfNext := by
  induction n generalizing s with
  | zero => rfl
  | succ n ih =>
    rw [eventsOfNexts]
    split
    · rename_i t s' hn
      by_cases ht : t.isEnd = true
      · rw [if_pos ht, Scanner.nexts_of_end hn ht]
        simp [List.flatMap_replicate, eventsOfNext, ht]
      · rw [if_neg ht, ih, Scanner.nexts, hn]
        simp [eventsOfNext, ht]
    · rename_i r s' hn
      rw [Scanner.nexts_of_error hn]
      simp [List.flatMap_replicate, eventsOfNext]

/-- Actions are traced one after the other. -/
theorem trace_append (level : Level) (as bs : List Action) :
    trace level (as ++ bs) = trace level as ++ trace level bs := by
  simp [trace, records]

/-- A level leaves out the less severe records and nothing else. -/
theorem mem_trace_iff {level : Level} {actions : List Action} {r : Record} :
    r ∈ trace level actions ↔ r ∈ records actions ∧ r.level.rank ≤ level.rank := by
  rw [trace, List.mem_filter, Threshold.allows, decide_eq_true_eq, Threshold.rank]

end Log

end QueryScan
