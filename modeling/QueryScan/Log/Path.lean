import QueryScan.Log.FileName
import QueryScan.Text.Split

/-!
# Log files

The file that lines are logged to is chosen by a path. A path is a list of steps between
slashes, and starts at the root if it starts with a slash. Empty steps count for nothing,
and neither do steps that stay in place, unless a relative path starts with one.

If the last step goes down, it names the file, and the steps before it lead to the
directory. If it does anything else, the file has a default name, and the directory is
again what the steps before it lead to. A path without steps chooses the default name in
the current directory.

A log file can be made only if the names on the way to it and its own name can be given, and
if the path that is opened is not too long; that path is the text as it is written, with the
default name in place of a last step that does not go down.

Whether a path leads through some file, and where it leads to, is told for places below the
working directory only.

## Main results

* `Path.ofText_append_slash`: a slash at the end changes nothing, unless there is nothing
  before it.
* `Path.place?_of_absolute`: an absolute path leads to no place below the working directory.
-/

namespace QueryScan

namespace Log

/-- A step of a path. -/
inductive Step where
  /-- Stay where one is. -/
  | stay
  /-- Go to the directory above. -/
  | up
  /-- Go to what has this name. -/
  | down (name : String)
  deriving DecidableEq, Repr

/-- The step that a text stands for. -/
def Step.ofText (cs : List Char) : Step :=
  if cs = ['.'] then stay
  else if cs = ['.', '.'] then up
  else down (String.ofList cs)

/-- A path. -/
structure Path where
  /-- Whether it starts at the root. -/
  absolute : Bool
  /-- The steps that count, in order. -/
  steps : List Step
  deriving DecidableEq, Repr

namespace Path

/-- The steps that count of the pieces between slashes: a step that stays in place counts
only as the first of a relative path. -/
def stepsOf (absolute : Bool) (pieces : List (List Char)) : List Step :=
  let steps := (pieces.filter fun p => !p.isEmpty).map Step.ofText
  match absolute, steps with
  | false, .stay :: rest => .stay :: rest.filter (· != .stay)
  | _, steps => steps.filter (· != .stay)

/-- The path that a text stands for. -/
def ofText (s : String) : Path :=
  let cs := s.toList
  let absolute := cs.head? == some '/'
  ⟨absolute, stepsOf absolute (pieces '/' cs)⟩

/-- The current directory. -/
def current : Path :=
  ⟨false, [.stay]⟩

/-- A slash at the end changes nothing, unless there is nothing before it. -/
theorem ofText_append_slash {s : String} (h : s ≠ "") : ofText (s ++ "/") = ofText s := by
  have hne : s.toList ≠ [] := by simpa using h
  have happ : (s ++ "/").toList = s.toList ++ ['/'] := by simp
  have hhead : (s.toList ++ ['/']).head? = s.toList.head? := by
    rw [List.head?_append, List.head?_eq_some_head hne]
    rfl
  have hsteps : ∀ absolute, stepsOf absolute (pieces '/' (s.toList ++ ['/'])) =
      stepsOf absolute (pieces '/' s.toList) := by
    intro absolute
    simp [stepsOf, pieces_append_separator]
  simp only [ofText, happ, hhead, hsteps]

/-- The path without its last step, if it has one. -/
def parent? (p : Path) : Option Path :=
  if p.steps.isEmpty then none else some ⟨p.absolute, p.steps.dropLast⟩

/-- The name that the last step goes to. -/
def fileName? (p : Path) : Option String :=
  match p.steps.getLast? with
  | some (.down name) => some name
  | _ => none

/-! ### The log file -/

/-- The name of a log file whose path gives none. -/
def defaultName : String := "customdb.log"

/-- The directory of the log file that a path chooses. -/
def logDirectory (p : Path) : Path :=
  p.parent?.getD current

/-- The name of the log file that a path chooses, without the date. -/
def logName (p : Path) : String :=
  p.fileName?.getD defaultName

/-! ### What can be opened -/

/-- The names on the way to the log file can be given to directories, and its own name, with
a date behind it, to a file. -/
def namesAllowed (p : Path) : Bool :=
  (p.logDirectory.steps.all fun
    | .down name => nameAllowed name 0
    | _ => true) && nameAllowed p.logName dateBytes

/-- The pieces without those at the end that are empty or stay in place. -/
def trimEnd (ps : List (List Char)) : List (List Char) :=
  (ps.reverse.dropWhile fun p => p.isEmpty || p == ['.']).reverse

/-- The bytes that stand before the name of the log file in the path that is opened: the
pieces of the text up to the directory, each with a slash after it. A text of one step has
none, since its directory is the current one. -/
def bytesBefore (s : String) : Nat :=
  match pieces '/' s.toList with
  | [] => 0
  | first :: rest =>
    match trimEnd rest with
    | [] => 0
    | kept =>
      (first :: trimEnd kept.dropLast).foldl
        (fun bytes piece => bytes + (String.ofList piece).utf8ByteSize + 1) 0

/-- The path that is opened for the log file is not too long. -/
def lengthAllowed (s : String) : Bool :=
  decide (bytesBefore s + (ofText s).logName.utf8ByteSize + dateBytes ≤ pathLimit)

/-! ### Places below the working directory -/

/-- One step further from a place below the working directory, which is given by the names
on the way to it. There is no such place outside the working directory. -/
def move (place : List String) : Step → Option (List String)
  | .stay => some place
  | .up => if place.isEmpty then none else some place.dropLast
  | .down name => some (place ++ [name])

/-- The places that a list of steps passes, from the given one on. The walk ends when it
leaves the working directory. -/
def walk (place : List String) : List Step → List (List String)
  | [] => [place]
  | step :: steps =>
    match move place step with
    | none => [place]
    | some next => place :: walk next steps

/-- Where a list of steps leads to, from the given place on. -/
def follow (place : List String) : List Step → Option (List String)
  | [] => some place
  | step :: steps => (move place step).bind fun next => follow next steps

/-- The place below the working directory that a path leads to. -/
def place? (p : Path) : Option (List String) :=
  if p.absolute then none else follow [] p.steps

/-- A path leads through a place below the working directory. -/
def passes (p : Path) (place : List String) : Bool :=
  !p.absolute && (walk [] p.steps).contains place

/-- An absolute path leads to no place below the working directory. -/
theorem place?_of_absolute {p : Path} (h : p.absolute = true) : p.place? = none := by
  rw [place?, if_pos h]

end Path

end Log

end QueryScan
