import QueryScan.Log.Trace
import QueryScan.Proofs.Stream

/-!
# Journals

`trace` says what some actions leave behind by looking at their outcome. Here the actions
keep a **journal** while they work: each record is added at the moment at which it arises, and
only if the level of the journal keeps it. A record that an early return skips, or that a
loop adds once too often, is then missing from the journal or twice in it.

Against the journal stands the **account** of an action, which is drawn up from what the
action returns: from the stream of the scanner, from its outcome and from the number of calls.

## Conventions

The keeper of a journal is a function that takes the journal and gives it back beside its
result. What it does is stated by one equation: its result is that of the plain function, and
the journal has certain records more, as far as they are kept.

## Main results

* `Log.nextKept_eq`, `Log.tokenizeKept_eq`, `Log.nextsKept_eq`, `Log.queryKept_eq`: what each
  keeper returns and adds.
* `Log.records_eq_account`: the records of an action, told from its account.
* `Log.performAll_eq`: **the trace agrees with the results**, at every level and for all
  actions.
-/

namespace QueryScan

namespace Log

/-- The level keeps the records that are at least as severe. -/
def Level.keeps (level : Level) (r : Record) : Bool :=
  decide (r.level.rank ≤ level.rank)

/-- A **journal**: the records kept so far, and the level that decides on further ones. -/
structure Journal where
  /-- The level at which the journal is kept. -/
  level : Level
  /-- The records, in order. -/
  records : List Record
  deriving DecidableEq, Repr

namespace Journal

/-- The journal with the record added, if the level keeps it. -/
def add (j : Journal) (r : Record) : Journal :=
  if j.level.keeps r then { j with records := j.records ++ [r] } else j

/-- The journal with some records added, one after the other. -/
def addAll (j : Journal) (rs : List Record) : Journal :=
  rs.foldl add j

/-- No records change nothing. -/
@[simp] theorem addAll_nil (j : Journal) : j.addAll [] = j := rfl

/-- One record is added as it is. -/
@[simp] theorem addAll_singleton (j : Journal) (r : Record) : j.addAll [r] = j.add r := rfl

/-- The first record is added first. -/
theorem addAll_cons (j : Journal) (r : Record) (rs : List Record) :
    j.addAll (r :: rs) = (j.add r).addAll rs := rfl

/-- Records are added one after the other. -/
theorem addAll_append (j : Journal) (rs rs' : List Record) :
    j.addAll (rs ++ rs') = (j.addAll rs).addAll rs' :=
  List.foldl_append

/-- Of the records added, those are there that the level keeps. -/
theorem addAll_eq (j : Journal) (rs : List Record) :
    j.addAll rs = ⟨j.level, j.records ++ rs.filter j.level.keeps⟩ := by
  induction rs generalizing j with
  | nil => simp
  | cons r rs ih =>
      rw [addAll_cons, ih, add]
      by_cases hr : j.level.keeps r = true
      · simp [hr]
      · simp [hr]

end Journal

/-! ### The events of a scanner -/

/-- The next token. What is reported is decided by what is ahead: the token that a lexeme
makes, nothing at the end of the text, and a character that starts no lexeme. -/
def nextKept (s : Scanner) (j : Journal) : (Except Rejection Token × Scanner) × Journal :=
  (s.next,
    match Lexeme.first? s.rest with
    | some (l, _) => j.add (.event (.token l.token))
    | none =>
      match s.rest with
      | [] => j
      | c :: _ => j.add (.event (.rejected ⟨c, s.position⟩)))

/-- **The next token**: one call adds what its answer calls for. -/
theorem nextKept_eq (s : Scanner) (j : Journal) :
    nextKept s j = (s.next, j.addAll ((eventsOfNext s.next.1).map .event)) := by
  rcases s.next_cases with ⟨l, rest, hf, hn⟩ | ⟨hr, hn⟩ | ⟨c, cs, hr, hc, hn⟩
  · simp [nextKept, hn, hf, eventsOfNext, Lexeme.isEnd_token]
  · simp [nextKept, hn, hr, eventsOfNext]
  · have hf : Lexeme.first? (c :: cs) = none := Lexeme.first?_eq_none_iff.mpr (by simp [hc])
    simp [nextKept, hn, hr, hf, eventsOfNext]

/-- All tokens, after those already read, unless a character is rejected; a rejection ends
the loop at once. -/
def tokenizeOntoKept (done : Array Token) (s : Scanner) (j : Journal) :
    (Except Rejection (List Token) × Scanner) × Journal :=
  match h : nextKept s j with
  | ((.error r, s'), j') => ((.error r, s'), j')
  | ((.ok t, s'), j') =>
    if hend : t.isEnd = true then ((.ok (done.push t).toList, s'), j')
    else
      have := Scanner.length_rest_lt_of_next (congrArg Prod.fst h) (by simpa using hend)
      tokenizeOntoKept (done.push t) s' j'
termination_by s.rest.length

/-- All tokens from here to the end mark, unless a character is rejected. -/
def tokenizeKept (s : Scanner) (j : Journal) :
    (Except Rejection (List Token) × Scanner) × Journal :=
  tokenizeOntoKept #[] s j

/-- The results of asking `n` times for the next token. -/
def nextsKept (s : Scanner) (j : Journal) : Nat → List (Except Rejection Token) × Journal
  | 0 => ([], j)
  | n + 1 =>
    let p := nextKept s j
    let q := nextsKept p.1.2 p.2 n
    (p.1.1 :: q.1, q.2)

/-- The reports of a scanner that is asked so many times more than it has tokens: if the scan
ends in a rejection, that rejection every time, and at the end mark nothing. -/
def refusals (s : Scanner) (times : Nat) : List Event :=
  match s.tokenize.1 with
  | .ok _ => []
  | .error r => List.replicate times (.rejected r)

/-- A scanner that stays where it is reports the same at every call. -/
theorem flatMap_replicate_verdict (s : Scanner) (n : Nat) :
    (List.replicate n s.verdict).flatMap eventsOfNext = refusals s n := by
  rw [Scanner.verdict, refusals]
  cases s.tokenize.1 with
  | ok ts => simp [Except.map, eventsOfNext, List.flatMap_replicate]
  | error r => simp [Except.map, eventsOfNext, List.flatMap_replicate]

/-- A token of a stream is reported. -/
theorem eventsOfNext_of_mem_stream {s : Scanner} {t : Token} (h : t ∈ s.stream) :
    eventsOfNext (.ok t) = [.token t] := by
  rw [eventsOfNext, Scanner.isEnd_of_mem_stream h]
  rfl

/-- The events of a whole scan: the tokens of the stream, and the rejection that ends it. -/
def scanEvents (s : Scanner) : List Event :=
  s.stream.map .token ++ refusals s 1

/-- A rejection is all that a scan reports. -/
theorem scanEvents_of_error {s s' : Scanner} {r : Rejection} (h : s.next = (.error r, s')) :
    scanEvents s = [.rejected r] := by
  obtain rfl := Scanner.eq_of_next_error h
  rw [scanEvents, Scanner.stream_of_stays h rfl, refusals, Scanner.tokenize_of_next_error h]
  rfl

/-- At the end mark a scan reports nothing. -/
theorem scanEvents_of_end {s s' : Scanner} {t : Token} (h : s.next = (.ok t, s'))
    (ht : t.isEnd = true) : scanEvents s = [] := by
  obtain rfl := Scanner.eq_of_next_end h ht
  have htoken : Scanner.token? (.ok t) = none := by rw [Scanner.token?, ht]; rfl
  rw [scanEvents, Scanner.stream_of_stays h htoken, refusals, Scanner.tokenize_of_next_end h ht]
  rfl

/-- Any other token is reported before all else. -/
theorem scanEvents_of_token {s s' : Scanner} {t : Token} (h : s.next = (.ok t, s'))
    (ht : t.isEnd = false) : scanEvents s = .token t :: scanEvents s' := by
  rw [scanEvents, Scanner.stream_of_next h ht, ← flatMap_replicate_verdict,
    Scanner.verdict_of_next h ht, flatMap_replicate_verdict]
  rfl

/-- A rejection ends the loop. -/
theorem tokenizeOntoKept_of_error {s s' : Scanner} {j j' : Journal} {r : Rejection}
    (h : nextKept s j = ((.error r, s'), j')) (done : Array Token) :
    tokenizeOntoKept done s j = ((.error r, s'), j') := by
  rw [tokenizeOntoKept]
  split <;> simp_all

/-- The end mark ends the loop. -/
theorem tokenizeOntoKept_of_end {s s' : Scanner} {j j' : Journal} {t : Token}
    (h : nextKept s j = ((.ok t, s'), j')) (ht : t.isEnd = true) (done : Array Token) :
    tokenizeOntoKept done s j = ((.ok (done.push t).toList, s'), j') := by
  rw [tokenizeOntoKept]
  split <;> simp_all

/-- After any other token the loop goes on. -/
theorem tokenizeOntoKept_of_token {s s' : Scanner} {j j' : Journal} {t : Token}
    (h : nextKept s j = ((.ok t, s'), j')) (ht : t.isEnd = false) (done : Array Token) :
    tokenizeOntoKept done s j = tokenizeOntoKept (done.push t) s' j' := by
  rw [tokenizeOntoKept]
  split
  · simp_all
  · rename_i t₁ s₁ j₁ h₁
    rw [h] at h₁
    obtain ⟨h₂, rfl⟩ := Prod.mk.inj h₁
    obtain ⟨htok, rfl⟩ := Prod.mk.inj h₂
    obtain rfl := Except.ok.inj htok
    rw [dif_neg (by simp [ht])]

/-- The loop returns the outcome of the scan behind the tokens already read, and adds the
events of the scan. Induction on what the scanner hands out. -/
theorem tokenizeOntoKept_eq (done : Array Token) (s : Scanner) (j : Journal) :
    tokenizeOntoKept done s j =
      ((s.tokenize.1.map (done.toList ++ ·), s.tokenize.2),
        j.addAll ((scanEvents s).map .event)) := by
  induction s using Scanner.next_induction generalizing done j with
  | step s ih =>
      have hkept := nextKept_eq s j
      match hn : s.next with
      | (.error r, s') =>
          rw [hn] at hkept
          rw [tokenizeOntoKept_of_error hkept, Scanner.tokenize_of_next_error hn,
            scanEvents_of_error hn]
          rfl
      | (.ok t, s') =>
          rw [hn] at hkept
          cases ht : t.isEnd with
          | true =>
              rw [tokenizeOntoKept_of_end hkept ht, Scanner.tokenize_of_next_end hn ht,
                scanEvents_of_end hn ht, Array.toList_push, eventsOfNext, if_pos ht]
              rfl
          | false =>
              have hevents : eventsOfNext (.ok t) = [.token t] := by rw [eventsOfNext, ht]; rfl
              rw [tokenizeOntoKept_of_token hkept ht, ih t s' hn ht,
                Scanner.tokenize_of_next_token hn ht, scanEvents_of_token hn ht, hevents,
                ← Journal.addAll_append]
              cases s'.tokenize.1 <;> simp [Except.map]

/-- **All tokens**: a scan adds its events. -/
theorem tokenizeKept_eq (s : Scanner) (j : Journal) :
    tokenizeKept s j = (s.tokenize, j.addAll ((scanEvents s).map .event)) := by
  rw [tokenizeKept, tokenizeOntoKept_eq]
  cases ht : s.tokenize.1 <;> simp [Except.map, ← ht]

/-- Any number of calls report the tokens of the stream, as far as they reach, and then the
rejection, as often as there are calls left. -/
theorem flatMap_nexts (s : Scanner) (n : Nat) :
    (s.nexts n).flatMap eventsOfNext =
      (s.stream.take n).map .token ++ refusals s (n - s.stream.length) := by
  have htokens : ((s.stream.take n).map .ok).flatMap eventsOfNext =
      (s.stream.take n).map .token := by
    rw [List.flatMap_def, List.map_map, List.map_congr_left (g := fun t => [.token t]),
      ← List.flatMap_def, List.map_eq_flatMap]
    intro t ht
    exact eventsOfNext_of_mem_stream (List.mem_of_mem_take ht)
  rw [Scanner.nexts_eq_stream, List.flatMap_append, htokens, flatMap_replicate_verdict]

/-- **Single calls**: each adds what it reports. -/
theorem nextsKept_eq (s : Scanner) (j : Journal) (n : Nat) :
    nextsKept s j n = (s.nexts n,
      j.addAll (((s.stream.take n).map Event.token ++ refusals s (n - s.stream.length)).map
        .event)) := by
  rw [← flatMap_nexts]
  induction n generalizing s j with
  | zero => rfl
  | succ n ih =>
      simp only [nextsKept, nextKept_eq, ih, ← Journal.addAll_append, ← List.map_append]
      rfl

/-! ### The records of a query -/

/-- The tokens of a query, as they come about within the span. A query that fails the check is
not scanned, and a rejection is returned before the tokens are counted. -/
def queryWithin (query : String) (j : Journal) : Except QueryError (List Token) × Journal :=
  match Query.validate query with
  | .error e => (.error e, j)
  | .ok () =>
    match tokenizeKept (Scanner.ofQuery query) j with
    | ((.error r, _), j') => (.error (.rejected r), j')
    | ((.ok ts, _), j') => (.ok ts, j'.add (.event (.tokenized ts.length)))

/-- The tokens of a query. The span is left in every case. -/
def queryKept (query : String) (j : Journal) : Except QueryError (List Token) × Journal :=
  let p := queryWithin query ((j.add (.span query.utf8ByteSize)).add .enter)
  (p.1, p.2.add .exit)

/-- The events of a query, told from its outcome: none if the query fails the check, and else
the tokens of the stream and then either how many they are with the end mark, or the rejection
that is returned. A query that passes the check is not refused for its length. -/
def queryEvents (query : String) : List Event :=
  match Query.validate query with
  | .error _ => []
  | .ok () =>
    let tokens := (Scanner.ofQuery query).stream.map Event.token
    match Query.tokenize query with
    | .ok _ => tokens ++ [.tokenized (tokens.length + 1)]
    | .error (.rejected r) => tokens ++ [.rejected r]
    | .error (.invalidInput _) => []

/-- The records of a query: its events, within a span that carries its length. -/
def queryRecords (query : String) : List Record :=
  .span query.utf8ByteSize :: .enter :: (queryEvents query).map .event ++ [.exit]

/-- A query whose scan reaches the end has the events of the scan, and then the number of
tokens. -/
theorem queryEvents_of_ok {query : String} {ts : List Token}
    (hv : Query.validate query = .ok ()) (hs : (Scanner.ofQuery query).tokenize.1 = .ok ts) :
    Query.tokenize query = .ok ts ∧
      queryEvents query = scanEvents (Scanner.ofQuery query) ++ [.tokenized ts.length] := by
  have htok : Query.tokenize query = .ok ts := by
    rw [Query.tokenize_of_validate_ok hv, hs]
    rfl
  have hstream := Scanner.tokenize_eq_stream (Scanner.ofQuery query)
  rw [Scanner.verdict, hs] at hstream
  obtain rfl : ts = (Scanner.ofQuery query).stream ++ [.endMark] := Except.ok.inj hstream
  refine ⟨htok, ?_⟩
  rw [queryEvents, hv, htok, scanEvents, refusals, hs, List.append_nil]
  simp

/-- A query whose scan meets a rejection is refused for it, and has the events of the scan. -/
theorem queryEvents_of_rejection {query : String} {r : Rejection}
    (hv : Query.validate query = .ok ()) (hs : (Scanner.ofQuery query).tokenize.1 = .error r) :
    Query.tokenize query = .error (.rejected r) ∧
      queryEvents query = scanEvents (Scanner.ofQuery query) := by
  have htok : Query.tokenize query = .error (.rejected r) := by
    rw [Query.tokenize_of_validate_ok hv, hs]
    rfl
  refine ⟨htok, ?_⟩
  rw [queryEvents, hv, htok, scanEvents, refusals, hs]
  rfl

/-- Within the span a query returns its outcome and adds its events, on every way out. -/
theorem queryWithin_eq (query : String) (j : Journal) :
    queryWithin query j = (Query.tokenize query, j.addAll ((queryEvents query).map .event)) := by
  cases hv : Query.validate query with
  | error e =>
      rw [queryWithin, queryEvents, hv, Query.tokenize_of_validate_error hv]
      rfl
  | ok _ =>
      have hkept := tokenizeKept_eq (Scanner.ofQuery query) j
      match hs : (Scanner.ofQuery query).tokenize with
      | (.error r, s') =>
          obtain ⟨htok, hevents⟩ := queryEvents_of_rejection hv (congrArg Prod.fst hs)
          rw [queryWithin, hv, hkept, hs, htok, hevents]
      | (.ok ts, s') =>
          obtain ⟨htok, hevents⟩ := queryEvents_of_ok hv (congrArg Prod.fst hs)
          rw [queryWithin, hv, hkept, hs, htok, hevents, List.map_append, Journal.addAll_append]
          rfl

/-- **A query**: its events are added within its span. -/
theorem queryKept_eq (query : String) (j : Journal) :
    queryKept query j = (Query.tokenize query, j.addAll (queryRecords query)) := by
  rw [queryKept, queryWithin_eq, queryRecords, List.cons_append, List.cons_append,
    Journal.addAll_cons, Journal.addAll_cons, Journal.addAll_append, Journal.addAll_singleton]

/-! ### Actions -/

/-- What an action returns. -/
inductive Outcome where
  /-- The tokens of a query, or why it is refused. -/
  | tokenize (result : Except QueryError (List Token))
  /-- The tokens of a text, or the rejection of a character. -/
  | scan (result : Except Rejection (List Token))
  /-- The answers to calls for the next token. -/
  | next (results : List (Except Rejection Token))

/-- What an action returns if nothing is reported. -/
def Action.outcome : Action → Outcome
  | tokenize query => .tokenize (Query.tokenize query)
  | scan text => .scan (Scanner.ofQuery text).tokenize.1
  | next text times => .next ((Scanner.ofQuery text).nexts times)

/-- The **account** of an action: the records that its outcome asks for. -/
def Action.account : Action → List Record
  | tokenize query => queryRecords query
  | scan text => (scanEvents (Scanner.ofQuery text)).map .event
  | next text times =>
    let s := Scanner.ofQuery text
    ((s.stream.take times).map Event.token ++ refusals s (times - s.stream.length)).map .event

/-- An action, with a journal kept of it. -/
def perform (a : Action) (j : Journal) : Outcome × Journal :=
  match a with
  | .tokenize query => ((queryKept query j).map .tokenize id)
  | .scan text => ((tokenizeKept (Scanner.ofQuery text) j).map (fun p => .scan p.1) id)
  | .next text times => ((nextsKept (Scanner.ofQuery text) j times).map .next id)

/-- Some actions in order, with one journal kept of them. -/
def performAll : List Action → Journal → List Outcome × Journal
  | [], j => ([], j)
  | a :: as, j =>
    let p := perform a j
    let q := performAll as p.2
    (p.1 :: q.1, q.2)

/-- **An action** returns what it returns without a journal, and adds its account. -/
theorem perform_eq (a : Action) (j : Journal) :
    perform a j = (a.outcome, j.addAll a.account) := by
  cases a with
  | tokenize query => rw [perform, queryKept_eq]; rfl
  | scan text => rw [perform, tokenizeKept_eq]; rfl
  | next text times => rw [perform, nextsKept_eq]; rfl

/-- **Some actions** add their accounts, one after the other. -/
theorem performAll_addAll (as : List Action) (j : Journal) :
    performAll as j = (as.map Action.outcome, j.addAll (as.flatMap Action.account)) := by
  induction as generalizing j with
  | nil => rfl
  | cons a as ih =>
      rw [performAll, perform_eq, ih, List.flatMap_cons, Journal.addAll_append]
      rfl

/-! ### The trace -/

/-- Reading all tokens reports the events of the scan. -/
theorem eventsOfDrain_drain (s : Scanner) : eventsOfDrain s.drain = scanEvents s := by
  induction s using Scanner.next_induction with
  | step s ih =>
      match hn : s.next with
      | (.error r, s') =>
          rw [Scanner.drain_of_error hn, scanEvents_of_error hn]
          rfl
      | (.ok t, s') =>
          cases ht : t.isEnd with
          | true =>
              rw [Scanner.drain_of_end hn ht, scanEvents_of_end hn ht]
              simp [eventsOfDrain, ht]
          | false =>
              rw [Scanner.drain_of_token hn ht, scanEvents_of_token hn ht, ← ih t s' hn ht]
              simp [eventsOfDrain, ht]

/-- The tokenization of a query reports the events of the query. -/
theorem eventsOfQuery_eq (query : String) : eventsOfQuery query = queryEvents query := by
  cases hv : Query.validate query with
  | error e => rw [eventsOfQuery, queryEvents, hv]
  | ok _ =>
      simp only [eventsOfQuery, hv, eventsOfDrain_drain]
      cases hr : (Scanner.ofQuery query).drain.rejection with
      | some r =>
          have hs : (Scanner.ofQuery query).tokenize.1 = .error r := by
            simp only [Scanner.tokenize, hr]
          rw [(queryEvents_of_rejection hv hs).2]
          exact List.append_nil _
      | none =>
          have hs : (Scanner.ofQuery query).tokenize.1 =
              .ok ((Scanner.ofQuery query).drain.readings.map Scanner.Reading.token) := by
            simp only [Scanner.tokenize, hr]
          rw [(queryEvents_of_ok hv hs).2, List.length_map]
          rfl

/-- The records of an action are those that its outcome asks for. -/
theorem records_eq_account (a : Action) : a.records = a.account := by
  cases a with
  | tokenize query => rw [Action.records, Action.account, queryRecords, eventsOfQuery_eq]
  | scan text => rw [Action.records, Action.account, eventsOfDrain_drain]
  | next text times => rw [Action.records, Action.account, eventsOfNexts_eq, flatMap_nexts]

/-- What is about a span, and the count of the tokens of a query, is for debugging; what a scanner
reports is for tracing. -/
theorem Record.level_eq (r : Record) :
    r.level = match r with
      | .event (.token _) | .event (.rejected _) => .trace
      | _ => .debug := by
  cases r with
  | event e => cases e <;> rfl
  | _ => rfl

/-- Tracing keeps all records, debugging those that are for it, and no other level keeps any. -/
theorem Level.keeps_iff {level : Level} {r : Record} :
    level.keeps r = true ↔ level = .trace ∨ level = .debug ∧ r.level = .debug := by
  have hlevel : r.level = .debug ∨ r.level = .trace := by
    rw [r.level_eq]
    split <;> simp
  rw [keeps, decide_eq_true_eq]
  rcases hlevel with hr | hr <;> rw [hr] <;> cases level <;> decide

/-- **The trace agrees with the results.** Actions that keep a journal return what they return
without it, whatever the level; and the journal is their accounts, one after the other, without
the records below the level. The trace is the same as the journal.

Records have these levels and particulars: a span is for debugging and carries the length of the
query, a token its kind and its text, a rejection the character and its position, both for
tracing, and the end of a query the number of its tokens, for debugging. -/
theorem performAll_eq (level : Level) (actions : List Action) :
    performAll actions ⟨level, []⟩ =
      (actions.map Action.outcome,
        ⟨level, (actions.flatMap Action.account).filter level.keeps⟩) ∧
    trace level actions = (actions.flatMap Action.account).filter level.keeps ∧
    (∀ r : Record, level.keeps r = true ↔ level = .trace ∨ level = .debug ∧ r.level = .debug) ∧
    (∀ bytes, (Record.span bytes).level = .debug ∧
      (Record.span bytes).fields = [("len", .number bytes)]) ∧
    (Record.enter.level = .debug ∧ Record.exit.level = .debug) ∧
    (∀ t, (Record.event (.token t)).level = .trace ∧
      (Record.event (.token t)).fields =
        [("kind", .word t.kind.label), ("text", .text t.text)]) ∧
    (∀ r, (Record.event (.rejected r)).level = .trace ∧
      (Record.event (.rejected r)).fields =
        [("character", .word (quotedChar r.character)), ("position", .number r.position)]) ∧
    (∀ count, (Record.event (.tokenized count)).level = .debug ∧
      (Record.event (.tokenized count)).fields = [("count", .number count)]) := by
  refine ⟨?_, ?_, fun _ => Level.keeps_iff, fun _ => ⟨rfl, rfl⟩, ⟨rfl, rfl⟩, fun _ => ⟨rfl, rfl⟩,
    fun _ => ⟨rfl, rfl⟩, fun _ => ⟨rfl, rfl⟩⟩
  · rw [performAll_addAll, Journal.addAll_eq]
    rfl
  · have hrecords : records actions = actions.flatMap Action.account :=
      congrArg actions.flatMap (funext records_eq_account)
    rw [trace, hrecords]
    rfl

end Log

end QueryScan
