/-!
# Severity levels

Events have one of five levels, from errors, which are the most severe, to traces. A
threshold lets through everything that is at least as severe as some level, or nothing.

A threshold is written as a level's name or `off`, in any mix of ASCII cases, or as a
number from 0 for `off` to 5 for `trace`; a number may have a plus sign and leading zeros.

## Main results

* `Threshold.allows_upTo_self`: a threshold lets its own level through.
* `Threshold.greatest_allows_iff`: the greatest of some thresholds lets through what any does.
* `Threshold.ofText?_name`: the name of a threshold, in upper case, leads back to it.
-/

namespace QueryScan

namespace Log

/-- How severe an event is. -/
inductive Level where
  | error
  | warn
  | info
  | debug
  | trace
  deriving DecidableEq, Repr

namespace Level

/-- All levels, the most severe first. -/
def all : List Level :=
  [error, warn, info, debug, trace]

/-- The number of the level. Greater numbers are less severe. -/
def rank : Level → Nat
  | error => 1
  | warn => 2
  | info => 3
  | debug => 4
  | trace => 5

/-- The name of the level. -/
def name : Level → String
  | error => "ERROR"
  | warn => "WARN"
  | info => "INFO"
  | debug => "DEBUG"
  | trace => "TRACE"

/-- The level with the given name. -/
def ofName? (s : String) : Option Level :=
  all.find? fun l => l.name == s

end Level

/-- How much is let through. -/
inductive Threshold where
  /-- Nothing. -/
  | off
  /-- Everything at least as severe as the level. -/
  | upTo (level : Level)
  deriving DecidableEq, Repr

namespace Threshold

/-- All thresholds, by number. -/
def all : List Threshold :=
  off :: Level.all.map upTo

/-- The number of the threshold. -/
def rank : Threshold → Nat
  | off => 0
  | upTo level => level.rank

/-- The name of the threshold. -/
def name : Threshold → String
  | off => "OFF"
  | upTo level => level.name

/-- The threshold lets events of the level through. -/
def allows (t : Threshold) (level : Level) : Bool :=
  decide (level.rank ≤ t.rank)

/-- The greater of two thresholds. -/
def max (t u : Threshold) : Threshold :=
  if t.rank ≤ u.rank then u else t

/-- The greatest of some thresholds. -/
def greatest (ts : List Threshold) : Threshold :=
  ts.foldl max off

/-- The number that a run of ASCII digits stands for, if it is one and not empty. -/
def digitsValue? (cs : List Char) : Option Nat :=
  if cs.isEmpty || !cs.all Char.isDigit then none
  else some (cs.foldl (fun n c => 10 * n + (c.toNat - '0'.toNat)) 0)

/-- The number that a text stands for: digits, after a plus sign if there is one. -/
def number? : List Char → Option Nat
  | '+' :: cs => digitsValue? cs
  | cs => digitsValue? cs

/-- The threshold with the given name, in whatever case. -/
def ofName? (cs : List Char) : Option Threshold :=
  all.find? fun t => t.name.toList == cs.map Char.toUpper

/-- The threshold that a text stands for. -/
def ofText? (cs : List Char) : Option Threshold :=
  match number? cs with
  | some n => all[n]?
  | none => ofName? cs

/-- A threshold lets its own level through. -/
theorem allows_upTo_self (level : Level) : (upTo level).allows level = true := by
  simp [allows, rank]

/-- Nothing is let through by `off`. -/
theorem allows_off (level : Level) : off.allows level = false := by
  cases level <;> rfl

/-- The greatest of a threshold and some more lets through what any of them does. -/
theorem foldl_max_allows_iff (t : Threshold) (ts : List Threshold) (level : Level) :
    (ts.foldl max t).allows level = true ↔
      t.allows level = true ∨ ∃ u ∈ ts, u.allows level = true := by
  induction ts generalizing t with
  | nil => simp
  | cons v ts ih =>
    have hmax : (max t v).allows level = true ↔ t.allows level = true ∨ v.allows level = true := by
      rw [max]
      split <;> simp only [allows, decide_eq_true_eq] <;> omega
    simp only [List.foldl_cons, ih, hmax, or_assoc, List.mem_cons, exists_eq_or_imp]

/-- **The greatest of some thresholds** lets through what any of them does. -/
theorem greatest_allows_iff {ts : List Threshold} {level : Level} :
    (greatest ts).allows level = true ↔ ∃ t ∈ ts, t.allows level = true := by
  rw [greatest, foldl_max_allows_iff, allows_off]
  simp

/-- The name of a threshold leads back to it. -/
theorem ofText?_name (t : Threshold) : ofText? t.name.toList = some t := by
  rcases t with _ | level
  · decide +kernel
  · cases level <;> decide +kernel

/-- No threshold is written with an `=` in front. -/
theorem ofText?_equals (cs : List Char) : ofText? ('=' :: cs) = none := by
  have hnumber : number? ('=' :: cs) = none := by
    have hdigit : '='.isDigit = false := by decide
    change digitsValue? ('=' :: cs) = none
    simp [digitsValue?, hdigit]
  have hname : ∀ t : Threshold, (t.name.toList == ('=' :: cs).map Char.toUpper) = false := by
    intro t
    have hhead : t.name.toList.head? ≠ some '=' := by
      cases t with
      | off => decide
      | upTo level => cases level <;> decide
    refine beq_eq_false_iff_ne.mpr fun h => hhead ?_
    rw [h]
    rfl
  rw [ofText?, hnumber]
  refine List.find?_eq_none.mpr fun t _ => ?_
  rw [hname t]
  exact Bool.false_ne_true

end Threshold

end Log

end QueryScan
