import QueryScan.Log.Session
import QueryScan.Proofs.DirectiveForm
import QueryScan.Proofs.Journal
import QueryScan.Proofs.PrintableLines

/-!
# Log Entries

A session tells its lines from the list of all records, in one go. This module tells them from the
actions: the **entries** of a log are the events that are logged, each with the span that is shown
with it, and a layout turns them into lines.

Which events are logged is up to the filter. Its plain directives look at an event by itself; its
guards look at the span around it, and let an event through for the sake of the span.

## Conventions

What a filter lets through within a span is asked of the span that is shown, not of the one that
is there. The two differ only where a filter hides the span, and then it guards nothing in it
(`Log.Filter.showsSpan_of_guarded`).

## Main results

* `Log.Session.lines_eq`: the lines of a session are those of its entries.
* `Log.Action.shownEvents_eq`: **what any filter logs** of an action are the events that its plain
  directives let through and those that are guarded within the span.
* `Log.Action.entries_ofThreshold`: under one plain threshold, an action has an entry for each of
  its events that the threshold lets through, within its span.
* `Log.Action.entries_ofGuard`: a directive about the span logs what its threshold logs, of the
  actions within a span that it is about.
-/

namespace QueryScan

namespace Log

/-! ### Entries -/

/-- The event that is reported, if the record is one. -/
def Record.event? : Record → Option Event
  | event e => some e
  | _ => none

/-- Of events in a row, all are events. -/
theorem Record.filterMap_event? (es : List Event) :
    (es.map Record.event).filterMap Record.event? = es := by
  rw [List.filterMap_map]
  exact List.filterMap_some

/-- The events of an action. -/
def Action.events : Action → List Event
  | tokenize query => eventsOfQuery query
  | scan text => eventsOfDrain (Scanner.ofQuery text).drain
  | next text times => eventsOfNexts (Scanner.ofQuery text) times

/-- The number of bytes that the span around an action carries, if there is one. -/
def Action.span? : Action → Option Nat
  | tokenize query => some query.utf8ByteSize
  | _ => none

/-- The records of an action are its events, within its span. -/
theorem Action.records_eq (a : Action) :
    a.records = match a.span? with
      | none => a.events.map .event
      | some bytes => .span bytes :: .enter :: a.events.map .event ++ [.exit] := by
  cases a <;> rfl

/-- An **entry** of a log. -/
structure Entry where
  /-- The number of bytes that the span around the event carries, if one is shown. -/
  span : Option Nat
  /-- The event. -/
  event : Event
  deriving DecidableEq, Repr

/-- The lines of an entry. -/
def Entry.lines (layout : Layout) (entry : Entry) : List String :=
  layout.lines entry.span entry.event

/-- An entry has as many lines as the layout is high. -/
theorem Entry.length_lines (layout : Layout) (entry : Entry) :
    (entry.lines layout).length = layout.height entry.span :=
  layout.length_lines entry.span entry.event

/-- The span around an action, if the filter shows it. -/
def Action.shownSpan? (f : Filter) (a : Action) : Option Nat :=
  if f.showsSpan then a.span? else none

/-- The events of an action that the filter lets through, within the span that it shows. -/
def Action.shownEvents (f : Filter) (a : Action) : List Event :=
  a.events.filter fun e => f.passes (a.shownSpan? f) (.event e)

/-- The entries that an action makes. -/
def Action.entries (f : Filter) (a : Action) : List Entry :=
  (a.shownEvents f).map fun e => ⟨a.shownSpan? f, e⟩

/-- The entries of a session. -/
def Session.entries (s : Session) (f : Filter) : List Entry :=
  s.actions.flatMap (Action.entries f)

/-- Of events in a row, the filter leaves those that it lets through within one span. -/
theorem Filter.keep_events (f : Filter) (span : Option Nat) (es : List Event)
    (rest : List Record) :
    f.keep span (es.map .event ++ rest) =
      (es.filter fun e => f.passes span (.event e)).map .event ++ f.keep span rest := by
  induction es with
  | nil => rfl
  | cons e es ih =>
      rw [List.map_cons, List.cons_append, keep, List.filter_cons]
      by_cases he : f.passes span (.event e) = true
      · rw [if_pos he, if_pos he, Record.spanAfter, ih]
        · rfl
        · exact nofun
        · exact nofun
      · rw [if_neg he, if_neg he, ih]

/-- Of the records of an action, the filter leaves the events that it lets through, and the
span around them if it shows that. Behind the action no span is shown. -/
theorem Action.keep_records (f : Filter) (a : Action) (rest : List Record) :
    f.keep none (a.records ++ rest) =
      (match a.shownSpan? f with
      | none => (a.shownEvents f).map .event
      | some bytes => .span bytes :: .enter :: (a.shownEvents f).map .event ++ [.exit]) ++
        f.keep none rest := by
  rw [records_eq, shownEvents, shownSpan?]
  cases a.span? with
  | none =>
      rw [ite_self]
      exact f.keep_events none a.events rest
  | some bytes =>
      have hspan : f.passes none (.span bytes) = f.showsSpan := rfl
      have henter : ∀ span, f.passes span .enter = f.showsSpan := fun _ => rfl
      have hexit : ∀ span, f.passes span .exit = f.showsSpan := fun _ => rfl
      cases hshows : f.showsSpan with
      | true =>
          simp [Filter.keep, hspan, henter, hexit, hshows, Filter.keep_events, Record.spanAfter]
      | false =>
          simp [Filter.keep, hspan, henter, hexit, hshows, Filter.keep_events]

/-- Events in a row become their lines, in the span that is open before them. -/
theorem Layout.linesFrom_events (layout : Layout) (span : Option Nat) (es : List Event)
    (rest : List Record) :
    layout.linesFrom span (es.map .event ++ rest) =
      es.flatMap (layout.lines span) ++ layout.linesFrom span rest := by
  induction es with
  | nil => rfl
  | cons e es ih =>
      rw [List.map_cons, List.cons_append, linesFrom, ih, List.flatMap_cons, List.append_assoc]

/-- An action becomes the lines of its entries, and leaves no span open. -/
theorem Layout.linesFrom_action (layout : Layout) (f : Filter) (a : Action)
    (rest : List Record) :
    layout.linesFrom none (f.keep none (a.records ++ rest)) =
      (a.entries f).flatMap (Entry.lines layout) ++ layout.linesFrom none (f.keep none rest) := by
  have hentries : (a.entries f).flatMap (Entry.lines layout) =
      (a.shownEvents f).flatMap (layout.lines (a.shownSpan? f)) := by
    rw [Action.entries, List.flatMap_map]
    rfl
  rw [Action.keep_records, hentries]
  cases a.shownSpan? f with
  | none => exact layout.linesFrom_events none _ _
  | some bytes =>
      simp only [List.cons_append, linesFrom, List.append_assoc, linesFrom_events]
      rfl

/-- **The lines of a session** are those of its entries. -/
theorem Session.lines_eq (s : Session) (f : Filter) (layout : Layout) :
    s.lines f layout = (s.entries f).flatMap (Entry.lines layout) := by
  rw [lines, logged, records, entries]
  induction s.actions with
  | nil => rfl
  | cons a as ih =>
      rw [List.flatMap_cons, List.flatMap_cons, List.flatMap_append, ← ih]
      exact layout.linesFrom_action f a _

/-! ### Plain levels -/

/-- If a filter that lets an event through shows the span as well, the entries of an action are
within its span. -/
theorem Action.entries_of_showsSpan {f : Filter} {a : Action}
    (h : ∀ e ∈ a.shownEvents f, f.showsSpan = true) :
    a.entries f = (a.shownEvents f).map fun e => ⟨a.span?, e⟩ :=
  List.map_congr_left fun e he => by rw [shownSpan?, if_pos (h e he)]

/-- No event is more severe than the span around a query, so what lets an event through lets the
span through. -/
theorem Threshold.allows_spanLevel {t : Threshold} {e : Event} (h : t.allows e.level = true) :
    t.allows Record.spanLevel = true := by
  have hle : Record.spanLevel.rank ≤ e.level.rank := by
    cases e with
    | token t => exact (by decide : Level.debug.rank ≤ Level.trace.rank)
    | rejected r => exact (by decide : Level.debug.rank ≤ Level.trace.rank)
    | tokenized count => exact Nat.le_refl _
  rw [allows, decide_eq_true_eq] at h ⊢
  exact Nat.le_trans hle h

/-- A filter that is one plain level leaves the records that the level keeps. -/
theorem Filter.keep_ofThreshold (patterns : Patterns) (level : Level) (span : Option Nat)
    (rs : List Record) :
    (ofThreshold patterns (.upTo level)).keep span rs = rs.filter level.keeps := by
  have hpasses : ∀ span r, (ofThreshold patterns (.upTo level)).passes span r = level.keeps r :=
    fun span r => passes_ofThreshold patterns (.upTo level) span r
  induction rs generalizing span with
  | nil => rfl
  | cons r rs ih =>
      rw [keep, hpasses, List.filter_cons]
      split
      · rw [ih]
      · exact ih span

/-- **An action under a plain threshold** has an entry for each of its events that the threshold
lets through, and within its span, if it has one. -/
theorem Action.entries_ofThreshold (patterns : Patterns) (t : Threshold) (a : Action) :
    a.entries (.ofThreshold patterns t) =
      (a.events.filter fun e => t.allows e.level).map fun e => ⟨a.span?, e⟩ := by
  have hshown : a.shownEvents (.ofThreshold patterns t) =
      a.events.filter fun e => t.allows e.level :=
    List.filter_congr fun e _ => Filter.passes_ofThreshold patterns t _ (.event e)
  rw [entries_of_showsSpan, hshown]
  intro e he
  rw [hshown] at he
  have hspan : t.allows Record.spanLevel = true :=
    Threshold.allows_spanLevel (List.mem_filter.mp he).2
  exact (Filter.passes_ofThreshold patterns t none .enter).trans hspan

/-! ### Guards -/

/-- What a later directive replaces aside, the directives are those that were given. -/
theorem Directive.mem_of_mem_unreplaced {d : Directive} {ds : List Directive}
    (h : d ∈ unreplaced ds) : d ∈ ds := by
  induction ds with
  | nil => exact h
  | cons e ds ih =>
      rw [unreplaced] at h
      split at h
      · exact List.mem_cons_of_mem _ (ih h)
      · exact (List.mem_cons.mp h).elim (fun hd => hd ▸ List.mem_cons_self)
          fun hd => List.mem_cons_of_mem _ (ih hd)

namespace Filter

variable {f : Filter} {d : Directive} {e : Event} {bytes : Nat}

/-- The guards of a span are directives of the filter. -/
theorem mem_directives_of_mem_guards (h : d ∈ f.guards) : d ∈ f.directives :=
  (List.mem_filter.mp (Directive.mem_of_mem_unreplaced (List.mem_filter.mp h).1)).1

/-- Within a span of so many bytes a guard whose value the span has lets the event through. -/
def guarded (f : Filter) (bytes : Nat) (e : Event) : Bool :=
  f.guards.any fun d => d.holds f.patterns bytes && d.threshold.allows e.level

/-- A guarded event has a guard. -/
theorem guarded_iff : f.guarded bytes e = true ↔
    ∃ d ∈ f.guards, d.holds f.patterns bytes = true ∧ d.threshold.allows e.level = true := by
  simp only [guarded, List.any_eq_true, Bool.and_eq_true]

/-- What is let through within a span is what is guarded. -/
theorem scope_allows (f : Filter) (bytes : Nat) (e : Event) :
    (f.scope bytes).allows e.level = f.guarded bytes e := by
  rw [Bool.eq_iff_iff, guarded_iff, scope, Threshold.greatest_allows_iff]
  simp only [List.mem_map, List.mem_filter]
  constructor
  · rintro ⟨_, ⟨d, ⟨hd, hholds⟩, rfl⟩, hallows⟩
    exact ⟨d, hd, hholds, hallows⟩
  · rintro ⟨d, hd, hholds, hallows⟩
    exact ⟨_, ⟨d, ⟨hd, hholds⟩, rfl⟩, hallows⟩

/-- All that a directive lets through lies below the ceiling. -/
theorem ceiling_allows (hd : d ∈ f.directives) {level : Level}
    (h : d.threshold.allows level = true) : f.ceiling.allows level = true := by
  rw [ceiling]
  split
  · rw [Threshold.allows, decide_eq_true_eq]
    cases level <;> decide
  · exact Threshold.greatest_allows_iff.mpr ⟨_, List.mem_map_of_mem hd, h⟩

/-- **A span in which an event is guarded is shown**: what lets the event through lets the span
through, which is no less severe. -/
theorem showsSpan_of_guarded (h : f.guarded bytes e = true) : f.showsSpan = true := by
  obtain ⟨d, hd, -, hallows⟩ := guarded_iff.mp h
  have hceiling : f.ceiling.allows Record.spanLevel = true :=
    ceiling_allows (mem_directives_of_mem_guards hd) (Threshold.allows_spanLevel hallows)
  have hsome : f.guards.isEmpty = false := List.isEmpty_eq_false_iff.mpr (List.ne_nil_of_mem hd)
  rw [showsSpan, hceiling, hsome]
  rfl

end Filter

/-- **What is logged of an action**: the events that the plain directives let through, and those
that a guard lets through within the span of the action. -/
theorem Action.shownEvents_eq (f : Filter) (a : Action) :
    a.shownEvents f = a.events.filter fun e =>
      f.decides (.event e) || a.span?.any fun bytes => f.guarded bytes e := by
  refine List.filter_congr fun e _ => ?_
  rw [Filter.passes, shownSpan?]
  cases a.span? with
  | none => rw [ite_self]; rfl
  | some bytes =>
      by_cases hshows : f.showsSpan = true
      · rw [if_pos hshows, Option.any_some, Option.any_some, f.scope_allows]
      · have hguarded : f.guarded bytes e = false :=
          Bool.eq_false_iff.mpr fun h => hshows (Filter.showsSpan_of_guarded h)
        rw [if_neg hshows, Option.any_some, hguarded]
        rfl

namespace Filter

variable {patterns : Patterns} {d : Directive}

/-- A directive that is not plain decides nothing by itself. -/
theorem decides_of_not_isPlain (h : d.isPlain = false) (r : Record) :
    decides ⟨patterns, [d]⟩ r = false := by
  have hnone : deciding? ⟨patterns, [d]⟩ r = none := by
    simp [deciding?, h]
  rw [decides, hnone]

/-- A directive about the span that is not plain guards it. -/
theorem guards_of_not_isPlain (hplain : d.isPlain = false) (hspan : d.guardsSpan = true) :
    guards ⟨patterns, [d]⟩ = [d] := by
  have hguard : d.isGuard = true := by
    cases hname : d.span with
    | some name => simp [Directive.isGuard, hname]
    | none =>
        cases hfield : d.field with
        | some f => simp [Directive.isGuard, hfield]
        | none => simp [Directive.isPlain, hname, hfield] at hplain
  simp [guards, hguard, hspan, Directive.unreplaced]

end Filter

/-- **A directive about the span**, alone, logs what its threshold alone would log of the actions
within a span whose value it has, and nothing of others. -/
theorem Action.entries_ofGuard {patterns : Patterns} {d : Directive} (hplain : d.isPlain = false)
    (hspan : d.guardsSpan = true) (a : Action) :
    a.entries ⟨patterns, [d]⟩ =
      if a.span?.any fun bytes => d.holds patterns bytes
        then a.entries (.ofThreshold patterns d.threshold) else [] := by
  have hguarded : ∀ bytes e, Filter.guarded ⟨patterns, [d]⟩ bytes e =
      (d.holds patterns bytes && d.threshold.allows e.level) := by
    intro bytes e
    simp only [Filter.guarded, Filter.guards_of_not_isPlain hplain hspan, List.any_cons,
      List.any_nil, Bool.or_false]
  have hshown : a.shownEvents ⟨patterns, [d]⟩ = a.events.filter fun e =>
      a.span?.any fun bytes => Filter.guarded ⟨patterns, [d]⟩ bytes e := by
    simp only [shownEvents_eq, Filter.decides_of_not_isPlain hplain, Bool.false_or]
  have hshows : ∀ e ∈ a.shownEvents ⟨patterns, [d]⟩, Filter.showsSpan ⟨patterns, [d]⟩ = true := by
    intro e he
    rw [hshown] at he
    obtain ⟨bytes, -, hbytes⟩ := (Option.any_eq_true _ _).mp (List.mem_filter.mp he).2
    exact Filter.showsSpan_of_guarded hbytes
  rw [entries_of_showsSpan hshows, entries_ofThreshold, hshown]
  cases a.span? with
  | none => simp
  | some bytes =>
      by_cases hholds : d.holds patterns bytes = true
      · simp [hguarded, hholds]
      · simp [hguarded, hholds]

/-- A plain level behind the name of the span is read as a directive about the span. -/
theorem Filter.ofText_tokenizeWord (patterns : Patterns) (level : Level) :
    ofText patterns ("[tokenize]=" ++ level.word) =
      .ok ⟨patterns, [⟨none, some Record.spanName, none, .upTo level⟩]⟩ := by
  have htext : "[tokenize]=" = "[" ++ Record.spanName ++ "]=" := by
    decide +kernel
  have hname : ∀ c ∈ Record.spanName.toList, c ≠ ']' ∧ c ≠ '\x7b' ∧ c ≠ ',' := by
    have hall : (Record.spanName.toList.all fun c => c != ']' && c != '\x7b' && c != ',') =
        true := by
      decide +kernel
    intro c hc
    simpa [and_assoc] using List.all_eq_true.mp hall c hc
  rw [htext, ofText_spanWord patterns hname]

/-- **The span with a level** logs, of the tokenization of a query, what the level logs, and nothing
of other actions. -/
theorem Action.entries_ofSpan (patterns : Patterns) (level : Level) (a : Action) :
    a.entries ⟨patterns, [⟨none, some Record.spanName, none, .upTo level⟩]⟩ =
      if a.span?.isSome then
        (a.events.filter fun e => level.keeps (.event e)).map fun e => ⟨a.span?, e⟩
      else [] := by
  have hguards : Directive.guardsSpan ⟨none, some Record.spanName, none, .upTo level⟩ = true := by
    simp [Directive.guardsSpan, Directive.covers]
  rw [entries_ofGuard rfl hguards, entries_ofThreshold]
  cases a.span? <;> rfl

/-! ### Sessions -/

namespace Session

/-- At a plain level the records that are logged are those of the trace. -/
theorem logged_ofLevel (s : Session) (patterns : Patterns) (level : Level) :
    s.logged (.ofThreshold patterns (.upTo level)) = trace level s.actions := by
  rw [logged, Filter.keep_ofThreshold]
  rfl

/-- The entries hold the events that are logged, in order. -/
theorem map_event_entries (s : Session) (f : Filter) :
    (s.entries f).map Entry.event = (s.logged f).filterMap Record.event? := by
  have haction : ∀ a : Action, (a.entries f).map Entry.event = a.shownEvents f := by
    intro a
    simp [Action.entries, Function.comp_def]
  rw [entries, logged, records]
  induction s.actions with
  | nil => rfl
  | cons a as ih =>
      rw [List.flatMap_cons, List.map_append, haction, ih, List.flatMap_cons,
        Action.keep_records, List.filterMap_append]
      congr 1
      cases a.shownSpan? f with
      | none => exact (Record.filterMap_event? _).symm
      | some bytes =>
          rw [List.filterMap_append, List.filterMap_cons_none rfl, List.filterMap_cons_none rfl,
            Record.filterMap_event?, List.filterMap_cons_none rfl]
          exact (List.append_nil _).symm

end Session

end Log

end QueryScan
