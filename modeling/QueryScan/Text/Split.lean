/-!
# Splitting at a separator

A text is cut at every occurrence of a separator; the separators are dropped and empty
pieces are kept, so `n` separators make `n + 1` pieces.

## Main results

* `join_pieces`: joining the pieces with the separator gives the text back.
* `not_mem_of_mem_pieces`: no piece contains the separator.
* `pieces_append_cons`: a separator between two texts parts their pieces.
* `pieces_append_separator`: a separator at the end adds an empty piece.
-/

namespace QueryScan

/-- The pieces of a text between the separators. -/
def pieces (separator : Char) : List Char → List (List Char)
  | [] => [[]]
  | c :: cs =>
    if c = separator then [] :: pieces separator cs
    else
      match pieces separator cs with
      | [] => [[c]]
      | piece :: rest => (c :: piece) :: rest

/-- The pieces with the separator between them. -/
def joinWith (separator : Char) : List (List Char) → List Char
  | [] => []
  | [piece] => piece
  | piece :: next :: rest => piece ++ separator :: joinWith separator (next :: rest)

/-- There is always a piece. -/
theorem pieces_ne_nil (separator : Char) (cs : List Char) : pieces separator cs ≠ [] := by
  cases cs with
  | nil => simp [pieces]
  | cons c cs =>
    rw [pieces]
    split
    · simp
    · split <;> simp

/-- **Nothing but the separators is lost**: joining the pieces gives the text back. -/
theorem join_pieces (separator : Char) (cs : List Char) :
    joinWith separator (pieces separator cs) = cs := by
  induction cs with
  | nil => rfl
  | cons c cs ih =>
    obtain ⟨piece, rest, hp⟩ := List.exists_cons_of_ne_nil (pieces_ne_nil separator cs)
    rw [pieces, hp]
    rw [hp] at ih
    split
    · rename_i hc
      rw [joinWith, ih, hc, List.nil_append]
    · cases rest with
      | nil => rw [← ih]; rfl
      | cons next rest => rw [← ih]; rfl

/-- One more piece stands after one more separator. -/
theorem joinWith_append_singleton {separator : Char} {ps : List (List Char)} (h : ps ≠ [])
    (last : List Char) :
    joinWith separator (ps ++ [last]) = joinWith separator ps ++ separator :: last := by
  induction ps with
  | nil => exact absurd rfl h
  | cons piece ps ih =>
    cases ps with
    | nil => rfl
    | cons next ps =>
      rw [List.cons_append, List.cons_append, joinWith, joinWith, ← List.cons_append,
        ih (List.cons_ne_nil next ps), List.append_assoc, List.cons_append]

/-- No piece contains the separator. -/
theorem not_mem_of_mem_pieces {separator : Char} {cs piece : List Char}
    (h : piece ∈ pieces separator cs) : separator ∉ piece := by
  induction cs generalizing piece with
  | nil =>
    obtain rfl : piece = [] := by simpa [pieces] using h
    simp
  | cons c cs ih =>
    obtain ⟨first, rest, hp⟩ := List.exists_cons_of_ne_nil (pieces_ne_nil separator cs)
    rw [pieces, hp] at h
    rw [hp] at ih
    split at h
    · rcases List.mem_cons.1 h with rfl | h
      · simp
      · exact ih h
    · rename_i hc
      rcases List.mem_cons.1 h with rfl | h
      · have := ih (List.mem_cons_self (a := first))
        simp [this, Ne.symm hc]
      · exact ih (List.mem_cons_of_mem _ h)

/-- Two texts with a separator between them have the pieces of both. -/
theorem pieces_append_cons (separator : Char) (cs ds : List Char) :
    pieces separator (cs ++ separator :: ds) = pieces separator cs ++ pieces separator ds := by
  induction cs with
  | nil => simp [pieces]
  | cons c cs ih =>
    obtain ⟨piece, rest, hp⟩ := List.exists_cons_of_ne_nil (pieces_ne_nil separator cs)
    rw [List.cons_append, pieces, pieces, ih, hp]
    split <;> simp

/-- A separator at the end adds an empty piece. -/
theorem pieces_append_separator (separator : Char) (cs : List Char) :
    pieces separator (cs ++ [separator]) = pieces separator cs ++ [[]] :=
  pieces_append_cons separator cs []

/-- A text without a separator is one piece. -/
theorem pieces_of_notMem {separator : Char} {cs : List Char} (h : separator ∉ cs) :
    pieces separator cs = [cs] := by
  induction cs with
  | nil => rfl
  | cons c cs ih =>
    have hc : c ≠ separator := fun hc => h (hc ▸ List.mem_cons_self)
    rw [pieces, if_neg hc, ih (List.not_mem_of_not_mem_cons h)]

end QueryScan
