import QueryScan.JsonValue.Symbol

/-!
# Reading structured values

The symbols of a text make a value if they nest properly. They are taken one by one; what is
open around the value that is being read is kept in a stack, so that the depth of a value is
not limited.

Of several members of an object under the same name the last one counts.

## Main results

* `lookup_distinct`: looking a name up among the members that count gives the same as among
  all of them.
-/

namespace QueryScan

namespace JsonValue

/-- The first member under each name. -/
def distinct : List (String × JsonValue) → List (String × JsonValue)
  | [] => []
  | m :: ms => m :: (distinct ms).filter fun n => n.1 != m.1

/-- An array or an object that is still open. What has been read of it is kept with the last
item or member first. -/
inductive Frame where
  /-- An array. -/
  | items (before : List JsonValue)
  /-- An object, in which the value under a name is being read. -/
  | member (before : List (String × JsonValue)) (name : String)

/-- What may come next. -/
inductive Stage where
  /-- A value. -/
  | value
  /-- The first item of an array, or its end. -/
  | firstItem
  /-- The first name in an object, or its end. -/
  | firstName
  /-- Another name in an object with these members. -/
  | nextName (before : List (String × JsonValue))
  /-- A colon after this name, in an object with these members. -/
  | afterName (before : List (String × JsonValue)) (name : String)
  /-- What follows this value. -/
  | afterValue (value : JsonValue)

/-- What comes after the start of a value, and what is open then. -/
def start? (enclosing : List Frame) : Symbol → Option (List Frame × Stage)
  | .scalar value => some (enclosing, .afterValue value)
  | .openArray => some (.items [] :: enclosing, .firstItem)
  | .openObject => some (enclosing, .firstName)
  | _ => none

/-- What comes after a symbol, and what is open then. -/
def Stage.next? (enclosing : List Frame) : Stage → Symbol → Option (List Frame × Stage)
  | value, symbol => start? enclosing symbol
  | firstItem, .closeArray => some (enclosing.drop 1, afterValue (.array []))
  | firstItem, symbol => start? enclosing symbol
  | firstName, .closeObject => some (enclosing, afterValue (.object []))
  | firstName, .scalar (.string name) => some (enclosing, afterName [] name)
  | nextName before, .scalar (.string name) => some (enclosing, afterName before name)
  | afterName before name, .colon => some (.member before name :: enclosing, value)
  | afterValue v, symbol =>
    match enclosing, symbol with
    | .items before :: outer, .comma => some (.items (v :: before) :: outer, value)
    | .items before :: outer, .closeArray => some (outer, afterValue (.array (v :: before).reverse))
    | .member before name :: outer, .comma => some (outer, nextName ((name, v) :: before))
    | .member before name :: outer, .closeObject =>
      some (outer, afterValue (.object (distinct ((name, v) :: before))))
    | _, _ => none
  | _, _ => none

/-- The value that some symbols make, from a stage on. -/
def ofSymbolsFrom? (enclosing : List Frame) (stage : Stage) : List Symbol → Option JsonValue
  | [] =>
    match enclosing, stage with
    | [], .afterValue v => some v
    | _, _ => none
  | symbol :: symbols =>
    match stage.next? enclosing symbol with
    | some (enclosing, stage) => ofSymbolsFrom? enclosing stage symbols
    | none => none

/-- The value that a text stands for. -/
def ofText? (s : String) : Option JsonValue :=
  (symbols? s.toList).bind (ofSymbolsFrom? [] .value)

/-- Leaving out what stands under another name does not change what stands under a name. -/
theorem lookup_filter_ne {name other : String} (h : name ≠ other)
    (ms : List (String × JsonValue)) :
    (ms.filter fun n => n.1 != other).lookup name = ms.lookup name := by
  induction ms with
  | nil => rfl
  | cons m ms ih =>
    rw [List.filter_cons]
    split
    · rw [List.lookup_cons, List.lookup_cons, ih]
    · rename_i hm
      have hname : (name == m.1) = false := by
        simp only [bne_iff_ne, ne_eq, Decidable.not_not] at hm
        rw [hm]
        exact beq_false_of_ne h
      rw [ih, List.lookup_cons, hname]

/-- Looking a name up among the members that count gives the same as among all of them. -/
theorem lookup_distinct (ms : List (String × JsonValue)) (name : String) :
    (distinct ms).lookup name = ms.lookup name := by
  induction ms with
  | nil => rfl
  | cons m ms ih =>
    rw [distinct, List.lookup_cons, List.lookup_cons]
    by_cases h : name = m.1
    · rw [h, beq_self_eq_true]
    · rw [beq_false_of_ne h, lookup_filter_ne h, ih]

end JsonValue

end QueryScan
