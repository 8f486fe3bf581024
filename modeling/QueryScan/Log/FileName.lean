/-!
# Names of files

A file or a directory can have any name that has no NUL in it and is not too long, and it
can be opened by any path that is not too long either. The date of the day is put behind the
name of a log file, so that name has to leave room for it.

A date differs from day to day. Where files are listed, a mark stands for it: for the date
behind the name of a log file, and for the first date in the name of any other file.

## Main results

* `afterShape?_eq_some_iff`: a shape matches exactly the texts that begin with as many
  characters as it has, each fitting its own.
* `maskDate_eq_self`: a name in which no date begins is shown as it is.
-/

namespace QueryScan

namespace Log

/-! ### Names that can be given -/

/-- The most bytes that a name may have. -/
def nameLimit : Nat := 255

/-- The most bytes that a path may have. -/
def pathLimit : Nat := 4095

/-- The bytes that a date takes behind a name, with the point between them. -/
def dateBytes : Nat := 11

/-- A file or a directory can have this name, with the given number of bytes behind it. -/
def nameAllowed (name : String) (behind : Nat) : Bool :=
  !name.toList.contains '\x00' && decide (name.utf8ByteSize + behind ≤ nameLimit)

/-! ### Dates in names -/

/-- What stands for a date in the name of a file. -/
def dateMark : String := "<DATE>"

/-- The shape of a date. -/
def dateShape : List Char := "dddd-dd-dd".toList

/-- The character fits a character of a shape: `d` stands for any decimal digit and every
other character for itself. -/
def fitsShape (shape c : Char) : Bool :=
  if shape = 'd' then c.isDigit else c == shape

/-- What follows the shape, if the text begins with it. -/
def afterShape? : List Char → List Char → Option (List Char)
  | [], cs => some cs
  | _ :: _, [] => none
  | s :: shape, c :: cs => if fitsShape s c then afterShape? shape cs else none

/-- The text with a mark in place of the first date. -/
def maskDate : List Char → List Char
  | [] => []
  | c :: cs =>
    match afterShape? dateShape (c :: cs) with
    | some after => dateMark.toList ++ after
    | none => c :: maskDate cs

/-- A shape matches exactly the texts that begin with as many characters as it has, each
fitting its own. -/
theorem afterShape?_eq_some_iff {shape cs after : List Char} :
    afterShape? shape cs = some after ↔
      ∃ front, front.length = shape.length ∧
        (shape.zip front).all (fun p => fitsShape p.1 p.2) = true ∧ cs = front ++ after := by
  induction shape generalizing cs with
  | nil =>
    constructor
    · intro h
      exact ⟨[], rfl, rfl, Option.some.inj h⟩
    · rintro ⟨front, hlen, -, rfl⟩
      obtain rfl : front = [] := List.length_eq_zero_iff.1 hlen
      rfl
  | cons s shape ih =>
    cases cs with
    | nil =>
      constructor
      · intro h
        simp [afterShape?] at h
      · rintro ⟨front, hlen, -, hcs⟩
        cases front with
        | nil => simp at hlen
        | cons => simp at hcs
    | cons c cs =>
      rw [afterShape?]
      constructor
      · intro h
        split at h
        · rename_i hc
          obtain ⟨front, hlen, hfits, rfl⟩ := ih.1 h
          exact ⟨c :: front, by simp [hlen], by simp only [List.zip_cons_cons, List.all_cons, hc,
            hfits, Bool.and_self], rfl⟩
        · simp at h
      · rintro ⟨front, hlen, hfits, hcs⟩
        cases front with
        | nil => simp at hlen
        | cons d front =>
          obtain ⟨rfl, rfl⟩ := List.cons.inj hcs
          simp only [List.zip_cons_cons, List.all_cons, Bool.and_eq_true] at hfits
          rw [if_pos hfits.1]
          exact ih.2 ⟨front, by simpa using hlen, hfits.2, rfl⟩

/-- A name in which no date begins is shown as it is. -/
theorem maskDate_eq_self {cs : List Char}
    (h : ∀ before after, cs = before ++ after → afterShape? dateShape after = none) :
    maskDate cs = cs := by
  induction cs with
  | nil => rfl
  | cons c cs ih =>
    rw [maskDate, h [] (c :: cs) rfl]
    exact congrArg (c :: ·) (ih fun before after hcs => h (c :: before) after (by rw [hcs]; rfl))

end Log

end QueryScan
