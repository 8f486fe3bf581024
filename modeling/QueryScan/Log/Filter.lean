import QueryScan.Log.Directive

/-!
# Filters

A filter decides which records are logged. It is a list of directives, written with commas
between them. A filter that has no directive logs errors only.

A directive that names no span and asks for no value is a **plain** one, and decides by itself
about a record that comes from its target and has its field. Of the plain directives that apply,
the one with the longest target decides; of two with the same target, one that asks for a field
goes before one that does not; and of two that ask for the same, the later one counts. A record
to which none applies is not logged.

A directive that names a span or asks for a field is a **guard** of the spans that are as it
says. While such a span is entered, everything is logged that its guards let through, wherever
it comes from. A span that has a guard is itself logged, whatever the guard lets through. But no
span is logged that is less severe than all that the filter lets through, which is known before
any span is made, and then it is not guarded either. For this purpose a filter with a value lets
through everything.

## Main results

* `Filter.passes_ofThreshold`: a filter that is one plain threshold lets through what the
  threshold does, whatever the target and the span.
-/

namespace QueryScan

namespace Log

namespace Directive

/-- The directive is about the target. -/
def covers (d : Directive) (target : String) : Bool :=
  match d.target with
  | none => true
  | some start => start.toList.isPrefixOf target.toList

/-- The directive asks for nothing but a field, if for that. -/
def isPlain (d : Directive) : Bool :=
  d.span.isNone && d.field.all fun f => f.value.isNone

/-- The directive names a span or asks for a field. -/
def isGuard (d : Directive) : Bool :=
  d.span.isSome || d.field.isSome

/-- As a plain one, the directive applies to the record. Of spans it does not ask for a field. -/
def applies (d : Directive) (r : Record) : Bool :=
  d.covers r.target &&
    match r with
    | .event e => d.field.all fun f => e.fieldNames.contains f.name
    | _ => true

/-- As a guard, the directive is about the span around the tokenization of a query. -/
def guardsSpan (d : Directive) : Bool :=
  d.covers queryTarget && d.span.all (· == Record.spanName) &&
    d.field.all fun f => f.name == Record.spanField

/-- A span of so many bytes has the value that the directive asks for. -/
def holds (patterns : Patterns) (d : Directive) (bytes : Nat) : Bool :=
  match d.field.bind FieldFilter.value with
  | none => true
  | some value => value.holds patterns bytes

/-- How particular the directive is about targets: the length of its own. -/
def weight (d : Directive) : Nat :=
  match d.target with
  | none => 0
  | some start => start.length

/-- The name of the field that the directive asks for. -/
def fieldName? (d : Directive) : Option String :=
  d.field.map FieldFilter.name

/-- The first directive goes before the second, a later one: it is more particular about targets,
or it is as particular and asks for a field that the second does not ask for. -/
def outranks (d e : Directive) : Bool :=
  decide (e.weight < d.weight) || e.weight == d.weight &&
    match e.fieldName?, d.fieldName? with
    | none, some _ => true
    | some asked, some name => decide (asked < name)
    | _, none => false

/-- The directives ask for the same, and differ in nothing but the threshold. -/
def sameKey (d e : Directive) : Bool :=
  d.target == e.target && d.span == e.span && d.field == e.field

/-- The directives without those that a later one replaces. -/
def unreplaced : List Directive → List Directive
  | [] => []
  | d :: ds => if ds.any d.sameKey then unreplaced ds else d :: unreplaced ds

end Directive

/-- Which records are logged. -/
structure Filter where
  /-- The library that knows the patterns. -/
  patterns : Patterns
  /-- The directives, in the order in which they were given. -/
  directives : List Directive

namespace Filter

/-! ### Reading -/

/-- The filter that is one plain threshold. -/
def ofThreshold (patterns : Patterns) (threshold : Threshold) : Filter :=
  ⟨patterns, [⟨none, none, none, threshold⟩]⟩

/-- Reads a filter. -/
def ofText (patterns : Patterns) (s : String) : Except ReadError Filter := do
  let parts := (pieces ',' s.toList).filter fun part => !part.isEmpty
  match ← parts.mapM (Directive.ofText patterns) with
  | [] => return ofThreshold patterns (.upTo .error)
  | directives => return ⟨patterns, directives⟩

/-- The filter in force: the one from the environment if there is one that is read, else the
configured one if it is read, else everything up to `info`. There is none if reading breaks off,
at the given byte of a directive. -/
def effective (patterns : Patterns) (environment : Option String) (configured : String) :
    Except Nat Filter :=
  match environment.map (ofText patterns) with
  | some (.ok f) => .ok f
  | some (.error (.split index)) => .error index
  | some (.error .malformed) | none =>
    match ofText patterns configured with
    | .ok f => .ok f
    | .error (.split index) => .error index
    | .error .malformed => .ok (ofThreshold patterns (.upTo .info))

/-! ### Plain directives -/

/-- Of the directive chosen so far and a later one, the one that decides. -/
def choose (best : Option Directive) (d : Directive) : Option Directive :=
  match best with
  | none => some d
  | some b => if b.outranks d then some b else some d

/-- The plain directive that decides about a record. -/
def deciding? (f : Filter) (r : Record) : Option Directive :=
  (f.directives.filter fun d => d.isPlain && d.applies r).foldl choose none

/-- The plain directives let the record through. -/
def decides (f : Filter) (r : Record) : Bool :=
  match f.deciding? r with
  | none => false
  | some d => d.threshold.allows r.level

/-! ### Guards -/

/-- The guards of the span around the tokenization of a query. -/
def guards (f : Filter) : List Directive :=
  (Directive.unreplaced (f.directives.filter Directive.isGuard)).filter Directive.guardsSpan

/-- What the guards let through within a span of so many bytes: as much as any of those whose
value it has. -/
def scope (f : Filter) (bytes : Nat) : Threshold :=
  Threshold.greatest ((f.guards.filter fun d => d.holds f.patterns bytes).map Directive.threshold)

/-- All that the filter might let through. -/
def ceiling (f : Filter) : Threshold :=
  if f.directives.any fun d => (d.field.bind FieldFilter.value).isSome then .upTo .trace
  else Threshold.greatest (f.directives.map Directive.threshold)

/-! ### Deciding -/

/-- The span around the tokenization of a query is logged. -/
def showsSpan (f : Filter) : Bool :=
  f.ceiling.allows Record.spanLevel && (!f.guards.isEmpty || f.decides .enter)

/-- The filter lets the record through, within the span of so many bytes that is logged around
it, if there is one. -/
def passes (f : Filter) (span : Option Nat) (r : Record) : Bool :=
  match r with
  | .event e => f.decides r || span.any fun bytes => (f.scope bytes).allows e.level
  | _ => f.showsSpan

/-- Of some records in a row, those that the filter lets through, within the span that is logged
around the first of them. -/
def keep (f : Filter) (span : Option Nat) : List Record → List Record
  | [] => []
  | r :: rs =>
    if f.passes span r then r :: f.keep (r.spanAfter span) rs else f.keep span rs

/-! ### Plain thresholds -/

/-- One plain threshold decides about every record. -/
theorem decides_ofThreshold (patterns : Patterns) (threshold : Threshold) (r : Record) :
    (ofThreshold patterns threshold).decides r = threshold.allows r.level := by
  cases r <;> rfl

/-- One plain threshold guards no span, so nothing more is let through within one. -/
theorem scope_ofThreshold (patterns : Patterns) (threshold : Threshold) (bytes : Nat) :
    (ofThreshold patterns threshold).scope bytes = .off := rfl

/-- One plain threshold is all that is let through. -/
theorem ceiling_ofThreshold (patterns : Patterns) (threshold : Threshold) :
    (ofThreshold patterns threshold).ceiling = threshold := rfl

/-- **A filter that is one plain threshold** lets through what the threshold does, within any
span. -/
theorem passes_ofThreshold (patterns : Patterns) (threshold : Threshold) (span : Option Nat)
    (r : Record) : (ofThreshold patterns threshold).passes span r = threshold.allows r.level := by
  have hspan : (ofThreshold patterns threshold).showsSpan = threshold.allows Record.spanLevel := by
    rw [showsSpan, ceiling_ofThreshold, decides_ofThreshold]
    exact Bool.and_self _
  cases r with
  | event e =>
      have hscope : (span.any fun bytes =>
          ((ofThreshold patterns threshold).scope bytes).allows e.level) = false := by
        cases span with
        | none => rfl
        | some bytes => rw [Option.any_some, scope_ofThreshold, Threshold.allows_off]
      rw [passes, hscope, decides_ofThreshold, Bool.or_false]
  | span bytes => exact hspan
  | enter => exact hspan
  | exit => exact hspan

end Filter

end Log

end QueryScan
