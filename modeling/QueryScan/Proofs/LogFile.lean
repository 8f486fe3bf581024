import QueryScan.Log.Session

/-!
# Which File is Logged To

The text of a path says which directory the log file is in and what it is called. The two are
asked for one after the other, and each has a default of its own: without a name the file is
called `customdb.log`, and without any step it is in the current directory. This module says, of
every text, what the two answers are, and so that they fit together.

## Conventions

Slashes at the end of a text count for nothing, and neither do points after a slash: what is left
without them is the text **trimmed**. A trimmed text is empty, or it is a single part, or its last
part stands behind its last slash; nothing else is possible (`trimmed_cases`). What stands before
that slash is the **front**. It is trimmed again, and if nothing is left of it then it was the
root.

Directories are paths, and equal if they have the same steps. They are given by a text each: `.`
is the current directory, the empty text is the relative path without a step.

## Main results

* `trim_induction`: what a slash, or a slash with a point, at the end does not change may be
  proved of trimmed texts.
* `ofText_append_step`: a part that moves is one step more than the front.
* `bytesBefore_of_part`: the path that is opened has the front as it is written.
* `trimmed_cases`: the forms of a trimmed text.
* `Session.run_trimmed`: what is trimmed matters to no run.
* `Session.chosenBy_logPath`: **the file that is logged to**, for every path that a session can
  be given.
-/

namespace QueryScan

namespace Log

namespace Path

/-! ### Parts that count for nothing -/

/-- A text that is written backwards, without the slashes, and the points before a slash, that it
begins with. -/
def dropIdle : List Char → List Char
  | '/' :: cs => dropIdle cs
  | '.' :: '/' :: cs => dropIdle cs
  | cs => cs

/-- The text of a path without the slashes, and the slashes with a point, at its end. -/
def trimmed (p : String) : String :=
  String.ofList (dropIdle p.toList.reverse).reverse

/-- A slash at the end is trimmed. -/
theorem trimmed_append_slash (p : String) : trimmed (p ++ "/") = trimmed p := by
  have hrev : (p ++ "/").toList.reverse = '/' :: p.toList.reverse := by simp
  rw [trimmed, hrev, dropIdle, trimmed]

/-- A slash with a point at the end is trimmed. -/
theorem trimmed_append_point (p : String) : trimmed (p ++ "/.") = trimmed p := by
  have hrev : (p ++ "/.").toList.reverse = '.' :: '/' :: p.toList.reverse := by simp
  rw [trimmed, hrev, dropIdle, trimmed]

/-- Where nothing is left to be dropped, nothing is. -/
theorem dropIdle_eq_self {cs : List Char} (hslash : ∀ ds, cs ≠ '/' :: ds)
    (hpoint : ∀ ds, cs ≠ '.' :: '/' :: ds) : dropIdle cs = cs := by
  unfold dropIdle
  split
  · exact absurd rfl (hslash _)
  · exact absurd rfl (hpoint _)
  · rfl

/-- What has been dropped does not stand at the beginning any more. -/
theorem dropIdle_ne (cs ds : List Char) :
    dropIdle cs ≠ '/' :: ds ∧ dropIdle cs ≠ '.' :: '/' :: ds := by
  induction cs using dropIdle.induct with
  | case1 cs ih => rwa [dropIdle]
  | case2 cs ih => rwa [dropIdle]
  | case3 cs hslash hpoint =>
      rw [dropIdle_eq_self hslash hpoint]
      exact ⟨hslash ds, hpoint ds⟩

/-- Trimming once is enough. -/
theorem trimmed_trimmed (p : String) : trimmed (trimmed p) = trimmed p := by
  rw [trimmed, trimmed, String.toList_ofList, List.reverse_reverse,
    dropIdle_eq_self (fun ds => (dropIdle_ne _ ds).1) (fun ds => (dropIdle_ne _ ds).2)]

/-- A trimmed text does not end in a slash. -/
theorem trimmed_ne_append_slash (p q : String) : trimmed p ≠ q ++ "/" := by
  intro h
  have hrev := congrArg (·.toList.reverse) h
  rw [trimmed] at hrev
  refine (dropIdle_ne p.toList.reverse q.toList.reverse).1 ?_
  simpa using hrev

/-- A trimmed text does not end in a slash with a point. -/
theorem trimmed_ne_append_point (p q : String) : trimmed p ≠ q ++ "/." := by
  intro h
  have hrev := congrArg (·.toList.reverse) h
  rw [trimmed] at hrev
  refine (dropIdle_ne p.toList.reverse q.toList.reverse).2 ?_
  simpa using hrev

/-- **Induction on the end**: what holds of the trimmed text, and is kept when a slash or a slash
with a point is added, holds of the text. -/
theorem trim_induction {motive : String → Prop} (p : String) (base : motive (trimmed p))
    (slash : ∀ q, motive q → motive (q ++ "/")) (point : ∀ q, motive q → motive (q ++ "/.")) :
    motive p := by
  have hlist : ∀ cs : List Char, motive (String.ofList (dropIdle cs).reverse) →
      motive (String.ofList cs.reverse) := by
    intro cs
    induction cs using dropIdle.induct with
    | case1 cs ih =>
        intro h
        rw [List.reverse_cons, String.ofList_append]
        exact slash _ (ih h)
    | case2 cs ih =>
        intro h
        rw [List.reverse_cons, List.reverse_cons, List.append_assoc, String.ofList_append]
        exact point _ (ih h)
    | case3 cs hslash hpoint =>
        intro h
        rwa [dropIdle_eq_self hslash hpoint] at h
  have hp := hlist p.toList.reverse base
  rwa [List.reverse_reverse, String.ofList_toList] at hp

/-! ### Steps that count -/

/-- All steps that the pieces of a text stand for. -/
def allSteps (pieces : List (List Char)) : List Step :=
  (pieces.filter fun p => !p.isEmpty).map Step.ofText

/-- The step in place that a relative path may begin with. -/
def lead (absolute : Bool) (first? : Option Step) : List Step :=
  if absolute = false ∧ first? = some .stay then [.stay] else []

/-- The steps that count are the one in place that leads, and all that move. -/
theorem stepsOf_eq (absolute : Bool) (pieces : List (List Char)) :
    stepsOf absolute pieces = lead absolute (allSteps pieces).head? ++
      (allSteps pieces).filter (· != .stay) := by
  unfold stepsOf
  rw [show (pieces.filter fun p => !p.isEmpty).map Step.ofText = allSteps pieces from rfl]
  cases absolute with
  | true => rfl
  | false =>
      cases allSteps pieces with
      | nil => rfl
      | cons first rest => cases first <;> rfl

/-- The steps of some pieces and one more are theirs and its own. -/
theorem allSteps_append_singleton {pieces : List (List Char)} {piece : List Char}
    (hne : piece ≠ []) : allSteps (pieces ++ [piece]) = allSteps pieces ++ [Step.ofText piece] := by
  simp [allSteps, hne]

/-- A step that moves counts. -/
theorem stepsOf_append_step {absolute : Bool} {pieces : List (List Char)} {piece : List Char}
    (hne : piece ≠ []) (hmoves : Step.ofText piece ≠ .stay) :
    stepsOf absolute (pieces ++ [piece]) = stepsOf absolute pieces ++ [Step.ofText piece] := by
  rw [stepsOf_eq, stepsOf_eq, allSteps_append_singleton hne, List.filter_append,
    List.filter_cons_of_pos (by simpa using hmoves), List.filter_nil, ← List.append_assoc]
  congr 2
  cases allSteps pieces with
  | nil => simp [lead, hmoves]
  | cons step steps => rfl

/-- A step in place counts for nothing, unless it leads. -/
theorem stepsOf_append_stay {absolute : Bool} {pieces : List (List Char)}
    (h : absolute = true ∨ allSteps pieces ≠ []) :
    stepsOf absolute (pieces ++ [['.']]) = stepsOf absolute pieces := by
  have hstay : Step.ofText ['.'] = .stay := rfl
  rw [stepsOf_eq, stepsOf_eq, allSteps_append_singleton (by simp), List.filter_append, hstay,
    List.filter_cons_of_neg (by simp), List.filter_nil, List.append_nil]
  congr 1
  cases hsteps : allSteps pieces with
  | nil =>
      obtain rfl : absolute = true := h.resolve_right fun hne => hne hsteps
      rfl
  | cons step steps => rfl

/-! ### Texts with one more part -/

/-- A text that begins with no slash has a step, unless it is empty. -/
theorem absolute_or_allSteps_ne_nil {p : String} (h : p ≠ "") :
    (ofText p).absolute = true ∨ allSteps (pieces '/' p.toList) ≠ [] := by
  have hlist : p.toList ≠ [] := mt String.toList_eq_nil_iff.mp h
  obtain ⟨c, cs, htext⟩ := List.exists_cons_of_ne_nil hlist
  by_cases hc : c = '/'
  · exact Or.inl (by simp [ofText, htext, hc])
  · obtain ⟨piece, rest, hpieces⟩ := List.exists_cons_of_ne_nil (pieces_ne_nil '/' cs)
    refine Or.inr ?_
    rw [htext, pieces, if_neg hc, hpieces]
    simp [allSteps]

/-- One more part after a slash is one more piece. -/
theorem ofText_append_part {d n : String} (hd : d ≠ "") (hn : '/' ∉ n.toList) :
    ofText (d ++ "/" ++ n) =
      ⟨(ofText d).absolute, stepsOf (ofText d).absolute (pieces '/' d.toList ++ [n.toList])⟩ := by
  have hlist : (d ++ "/" ++ n).toList = d.toList ++ '/' :: n.toList := by simp
  have hfront : d.toList ≠ [] := mt String.toList_eq_nil_iff.mp hd
  have hhead : (d.toList ++ '/' :: n.toList).head? = d.toList.head? := by
    rw [List.head?_append, List.head?_eq_some_head hfront]
    rfl
  simp only [ofText, hlist, hhead, pieces_append_cons, pieces_of_notMem hn]

/-- A point after a slash changes nothing, unless there is nothing before it. -/
theorem ofText_append_point {p : String} (h : p ≠ "") : ofText (p ++ "/.") = ofText p := by
  have hpart := ofText_append_part h (n := ".") (by decide)
  have hpoint : ".".toList = ['.'] := by decide
  rw [hpoint, stepsOf_append_stay (absolute_or_allSteps_ne_nil h), String.append_assoc] at hpart
  exact hpart

/-! ### What stands before a part -/

/-- The text of the directory that the text before the last slash leads to: this text, trimmed,
or the root if nothing is left of it. -/
def frontText (d : String) : String :=
  if trimmed d = "" then "/" else trimmed d

/-- Trimming the end of a text that is not empty does not change its path. -/
theorem ofText_eq_frontText {d : String} (hd : d ≠ "") : ofText d = ofText (frontText d) := by
  refine trim_induction (motive := fun q => q ≠ "" → ofText q = ofText (frontText q)) d ?_ ?_ ?_ hd
  · intro hne
    rw [frontText, trimmed_trimmed, if_neg hne]
  · intro q ih _
    rw [frontText, trimmed_append_slash, ← frontText]
    by_cases hq : q = ""
    · rw [hq]
      rfl
    · rw [ofText_append_slash hq, ih hq]
  · intro q ih _
    rw [frontText, trimmed_append_point, ← frontText]
    by_cases hq : q = ""
    · rw [hq]
      rfl
    · rw [ofText_append_point hq, ih hq]

/-- The name of a file is not empty, has no slash and is no step in place or up. -/
def IsFileName (n : String) : Prop :=
  n ≠ "" ∧ '/' ∉ n.toList ∧ n ≠ "." ∧ n ≠ ".."

/-- A part that moves is one more step after what stands before it. -/
theorem ofText_append_step {d n : String} (hne : n ≠ "") (hslash : '/' ∉ n.toList)
    (hmoves : Step.ofText n.toList ≠ .stay) :
    ofText (d ++ "/" ++ n) = ⟨(ofText (frontText d)).absolute,
      (ofText (frontText d)).steps ++ [Step.ofText n.toList]⟩ := by
  have hlist : n.toList ≠ [] := mt String.toList_eq_nil_iff.mp hne
  by_cases hd : d = ""
  · have hroot : ofText (frontText "") = ⟨true, []⟩ := by decide
    have htext : ("" ++ "/" ++ n).toList = [] ++ '/' :: n.toList := by simp
    rw [hd, hroot]
    simp only [ofText, htext, pieces_append_cons, pieces_of_notMem hslash]
    rw [stepsOf_append_step hlist hmoves]
    rfl
  · rw [ofText_append_part hd hslash, stepsOf_append_step hlist hmoves, ← ofText_eq_frontText hd]
    rfl

/-- A part that moves and stands alone is the only step. -/
theorem ofText_of_step {n : String} (hne : n ≠ "") (hslash : '/' ∉ n.toList)
    (hmoves : Step.ofText n.toList ≠ .stay) : ofText n = ⟨false, [Step.ofText n.toList]⟩ := by
  have hlist : n.toList ≠ [] := mt String.toList_eq_nil_iff.mp hne
  have hhead : (n.toList.head? == some '/') = false := by
    rw [List.head?_eq_some_head hlist]
    exact beq_false_of_ne fun hc => hslash (Option.some.inj hc ▸ List.head_mem hlist)
  have hstep : stepsOf false ([] ++ [n.toList]) = stepsOf false [] ++ [Step.ofText n.toList] :=
    stepsOf_append_step hlist hmoves
  simp only [ofText, hhead, pieces_of_notMem hslash]
  exact congrArg (Path.mk false) hstep

/-- A file name is a step down. -/
theorem IsFileName.ofText_eq {n : String} (h : IsFileName n) : Step.ofText n.toList = .down n := by
  obtain ⟨-, -, hpoint, hup⟩ := h
  have hpoint' : n.toList ≠ ['.'] := fun heq => hpoint (String.toList_inj.mp heq)
  have hup' : n.toList ≠ ['.', '.'] := fun heq => hup (String.toList_inj.mp heq)
  rw [Step.ofText, if_neg hpoint', if_neg hup', String.ofList_toList]

/-! ### What is chosen -/

/-- The directory and the name of the log file that the text of a path chooses. -/
def chosen (p : String) : Path × String :=
  ((ofText p).logDirectory, (ofText p).logName)

/-- The directory is what the steps before the last one lead to. -/
theorem logDirectory_append (absolute : Bool) (steps : List Step) (step : Step) :
    (⟨absolute, steps ++ [step]⟩ : Path).logDirectory = ⟨absolute, steps⟩ := by
  simp [logDirectory, parent?]

/-- The last step names the file if it goes down. -/
theorem logName_append_down (absolute : Bool) (steps : List Step) (name : String) :
    (⟨absolute, steps ++ [.down name]⟩ : Path).logName = name := by
  simp [logName, fileName?]

/-- The file has the default name if the last step goes up. -/
theorem logName_append_up (absolute : Bool) (steps : List Step) :
    (⟨absolute, steps ++ [.up]⟩ : Path).logName = defaultName := by
  simp [logName, fileName?]

/-- A slash at the end plays no part. -/
theorem chosen_append_slash (p : String) : chosen (p ++ "/") = chosen p := by
  by_cases hp : p = ""
  · rw [hp]
    rfl
  · rw [chosen, ofText_append_slash hp, chosen]

/-- A slash with a point at the end plays no part. -/
theorem chosen_append_point (p : String) : chosen (p ++ "/.") = chosen p := by
  by_cases hp : p = ""
  · rw [hp]
    rfl
  · rw [chosen, ofText_append_point hp, chosen]

/-- **Trimming** the text changes nothing about the choice. -/
theorem chosen_trimmed (p : String) : chosen (trimmed p) = chosen p := by
  refine trim_induction (motive := fun q => chosen (trimmed p) = chosen q) p rfl ?_ ?_
  · intro q ih
    rw [chosen_append_slash, ih]
  · intro q ih
    rw [chosen_append_point, ih]

/-- A file name after the last slash is chosen, in what stands before it. -/
theorem chosen_name_in {d n : String} (h : IsFileName n) :
    chosen (d ++ "/" ++ n) = (ofText (frontText d), n) := by
  have hstep := h.ofText_eq
  rw [chosen, ofText_append_step h.1 h.2.1 (by simp [hstep]), hstep, logDirectory_append,
    logName_append_down]

/-- A file name that stands alone is chosen, and no directory. -/
theorem chosen_name_alone {n : String} (h : IsFileName n) : chosen n = (ofText "", n) := by
  have hstep := h.ofText_eq
  have hpath := ofText_of_step h.1 h.2.1 (by simp [hstep])
  rw [chosen, hpath, hstep, ← List.nil_append [Step.down n], logDirectory_append,
    logName_append_down]
  rfl

/-- A step up after the last slash leaves what stands before it, and the default name. -/
theorem chosen_up_in (d : String) :
    chosen (d ++ "/" ++ "..") = (ofText (frontText d), defaultName) := by
  have hstep : Step.ofText "..".toList = .up := by decide
  rw [chosen, ofText_append_step (by decide) (by decide) (by decide), hstep,
    logDirectory_append, logName_append_up]

/-! ### The path that is opened -/

/-- A piece at the end that counts for nothing is trimmed. -/
theorem trimEnd_append_idle (ps : List (List Char)) {piece : List Char}
    (h : piece = [] ∨ piece = ['.']) : trimEnd (ps ++ [piece]) = trimEnd ps := by
  rw [trimEnd, List.reverse_append, List.reverse_singleton, List.singleton_append,
    List.dropWhile_cons_of_pos (by rcases h with rfl | rfl <;> rfl), trimEnd]

/-- Up to a piece at the end that counts, nothing is trimmed. -/
theorem trimEnd_append_of_ne (ps : List (List Char)) {piece : List Char} (hne : piece ≠ [])
    (hpoint : piece ≠ ['.']) : trimEnd (ps ++ [piece]) = ps ++ [piece] := by
  rw [trimEnd, List.reverse_append, List.reverse_singleton, List.singleton_append,
    List.dropWhile_cons_of_neg (by simp [hne, hpoint])]
  simp

/-- **The pieces of the trimmed text** are those of the text without the ones at the end that
count for nothing. The first piece stays. -/
theorem exists_pieces_trimmed (p : String) : ∃ first rest,
    pieces '/' p.toList = first :: rest ∧
      pieces '/' (trimmed p).toList = first :: trimEnd rest := by
  refine trim_induction (motive := fun q => ∃ first rest, pieces '/' q.toList = first :: rest ∧
    pieces '/' (trimmed p).toList = first :: trimEnd rest) p ?_ ?_ ?_
  · obtain ⟨first, rest, hpieces⟩ :=
      List.exists_cons_of_ne_nil (pieces_ne_nil '/' (trimmed p).toList)
    refine ⟨first, rest, hpieces, ?_⟩
    rcases List.eq_nil_or_concat rest with rfl | ⟨ps, last, rfl⟩
    · exact hpieces
    · have htext : trimmed p = String.ofList (joinWith '/' (first :: ps)) ++ "/" ++
          String.ofList last := by
        have hjoin := join_pieces '/' (trimmed p).toList
        rw [hpieces, List.concat_eq_append, ← List.cons_append,
          joinWith_append_singleton (List.cons_ne_nil first ps)] at hjoin
        exact String.toList_inj.mp (by simp [← hjoin])
      rw [hpieces, List.concat_eq_append, trimEnd_append_of_ne]
      · rintro rfl
        exact trimmed_ne_append_slash _ _ (htext.trans String.append_empty)
      · rintro rfl
        exact trimmed_ne_append_point _ _ (htext.trans String.append_assoc)
  · rintro q ⟨first, rest, hq, htrimmed⟩
    have hlist : (q ++ "/").toList = q.toList ++ '/' :: [] := by simp
    refine ⟨first, rest ++ [[]], ?_, ?_⟩
    · rw [hlist, pieces_append_cons, hq]
      rfl
    · rw [trimEnd_append_idle rest (Or.inl rfl), htrimmed]
  · rintro q ⟨first, rest, hq, htrimmed⟩
    have hlist : (q ++ "/.").toList = q.toList ++ '/' :: ['.'] := by simp
    refine ⟨first, rest ++ [['.']], ?_, ?_⟩
    · rw [hlist, pieces_append_cons, hq]
      rfl
    · rw [trimEnd_append_idle rest (Or.inr rfl), htrimmed]

/-- Counting the bytes of some pieces, each with a slash after it, counts those of the pieces
with slashes between them and one more slash. -/
theorem foldl_bytes {ps : List (List Char)} (h : ps ≠ []) (before : Nat) :
    ps.foldl (fun bytes piece => bytes + (String.ofList piece).utf8ByteSize + 1) before =
      before + (String.ofList (joinWith '/' ps)).utf8ByteSize + 1 := by
  induction ps generalizing before with
  | nil => exact absurd rfl h
  | cons piece ps ih =>
      cases ps with
      | nil => rfl
      | cons next ps =>
          have hslash : (String.ofList ['/']).utf8ByteSize = 1 := by decide
          have hjoin : joinWith '/' (piece :: next :: ps) =
              piece ++ (['/'] ++ joinWith '/' (next :: ps)) := rfl
          rw [List.foldl_cons, ih (List.cons_ne_nil next ps), hjoin, String.ofList_append,
            String.ofList_append, String.utf8ByteSize_append, String.utf8ByteSize_append, hslash]
          omega

/-- **The path that is opened** for a part after a slash is the front as it is written, a slash,
and the name. -/
theorem bytesBefore_of_part {p d n : String} (h : trimmed p = d ++ "/" ++ n)
    (hn : n = ".." ∨ IsFileName n) : bytesBefore p = (trimmed d).utf8ByteSize + 1 := by
  obtain ⟨hslash, hne, hpoint⟩ : '/' ∉ n.toList ∧ n.toList ≠ [] ∧ n.toList ≠ ['.'] := by
    rcases hn with rfl | ⟨hne, hslash, hpoint, -⟩
    · decide
    · exact ⟨hslash, mt String.toList_eq_nil_iff.mp hne,
        fun heq => hpoint (String.toList_inj.mp heq)⟩
  obtain ⟨first, rest, hp, htrimmed⟩ := exists_pieces_trimmed p
  obtain ⟨first', rest', hd, hfront⟩ := exists_pieces_trimmed d
  have hlist : (d ++ "/" ++ n).toList = d.toList ++ '/' :: n.toList := by simp
  rw [h, hlist, pieces_append_cons, pieces_of_notMem hslash, hd] at htrimmed
  obtain ⟨rfl, hrest⟩ := List.cons.inj htrimmed
  have hjoin := join_pieces '/' (trimmed d).toList
  rw [hfront] at hjoin
  have hkept : bytesBefore p = (first' :: trimEnd rest').foldl
      (fun bytes piece => bytes + (String.ofList piece).utf8ByteSize + 1) 0 := by
    have hdrop : (trimEnd rest).dropLast = rest' := by
      rw [← hrest]
      exact List.dropLast_concat
    rw [bytesBefore, hp]
    dsimp only
    split
    · rename_i hnil
      rw [hnil] at hrest
      exact absurd hrest (List.append_ne_nil_of_right_ne_nil _ (List.cons_ne_nil _ _))
    · rw [hdrop]
  rw [hkept, foldl_bytes (List.cons_ne_nil _ _), hjoin, String.ofList_toList, Nat.zero_add]

/-- **Trimming** the text changes nothing about the path that is opened, either. -/
theorem bytesBefore_trimmed (p : String) : bytesBefore (trimmed p) = bytesBefore p := by
  obtain ⟨first, rest, hp, htrimmed⟩ := exists_pieces_trimmed p
  obtain ⟨first', rest', hp', htrimmed'⟩ := exists_pieces_trimmed (trimmed p)
  -- What is trimmed twice is trimmed, so nothing is left to be trimmed in its pieces.
  rw [trimmed_trimmed, htrimmed] at htrimmed'
  rw [htrimmed] at hp'
  have hrest : trimEnd (trimEnd rest) = trimEnd rest := by
    rw [(List.cons.inj hp').2, ← (List.cons.inj htrimmed').2, (List.cons.inj hp').2]
  rw [bytesBefore, bytesBefore, hp, htrimmed]
  simp only [hrest]

/-- For a part that stands alone, only the name is opened. -/
theorem bytesBefore_of_alone {p : String} (h : '/' ∉ (trimmed p).toList) : bytesBefore p = 0 := by
  obtain ⟨first, rest, hp, htrimmed⟩ := exists_pieces_trimmed p
  rw [pieces_of_notMem h] at htrimmed
  have hrest : trimEnd rest = [] := (List.cons.inj htrimmed).2.symm
  rw [bytesBefore, hp]
  simp only [hrest]

/-! ### Every path -/

/-- **A trimmed text** is empty or a part, or has a part after its last slash; and a part is a
file name, unless it is a step up, or a step in place that stands alone. -/
theorem trimmed_cases (p : String) :
    trimmed p = "" ∨ trimmed p = "." ∨ trimmed p = ".." ∨ IsFileName (trimmed p) ∨
      ∃ d n, trimmed p = d ++ "/" ++ n ∧ (n = ".." ∨ IsFileName n) := by
  by_cases hslash : '/' ∈ (trimmed p).toList
  · obtain ⟨after, before, hrev, hafter⟩ :=
      List.eq_append_cons_of_mem (List.mem_reverse.mpr hslash)
    have hsplit : trimmed p =
        String.ofList before.reverse ++ "/" ++ String.ofList after.reverse := by
      have hlist := congrArg List.reverse hrev
      rw [List.reverse_reverse] at hlist
      exact String.toList_inj.mp (by simp [hlist])
    refine Or.inr (Or.inr (Or.inr (Or.inr ⟨_, _, hsplit, ?_⟩)))
    by_cases hup : String.ofList after.reverse = ".."
    · exact Or.inl hup
    · refine Or.inr ⟨?_, by simpa using hafter, ?_, hup⟩
      · intro hempty
        rw [hempty, String.append_empty] at hsplit
        exact trimmed_ne_append_slash _ _ hsplit
      · intro hpoint
        rw [hpoint, String.append_assoc] at hsplit
        exact trimmed_ne_append_point _ _ hsplit
  · by_cases hempty : trimmed p = ""
    · exact Or.inl hempty
    · by_cases hpoint : trimmed p = "."
      · exact Or.inr (Or.inl hpoint)
      · by_cases hup : trimmed p = ".."
        · exact Or.inr (Or.inr (Or.inl hup))
        · exact Or.inr (Or.inr (Or.inr (Or.inl ⟨hempty, hslash, hpoint, hup⟩)))

/-- The directory and the name of the log file that a text **chooses**. -/
structure ChosenBy (p : String) (directory : Path) (name : String) : Prop where
  /-- The name can always be that of a file. -/
  isFileName : IsFileName name
  /-- A file name after the last slash is the name, and the front is the directory. -/
  of_name_in : ∀ d n, trimmed p = d ++ "/" ++ n → IsFileName n →
    name = n ∧ directory = ofText (frontText d)
  /-- A file name that stands alone is the name, and the directory has no step. -/
  of_name_alone : IsFileName (trimmed p) → name = trimmed p ∧ directory = ofText ""
  /-- With a step up after the last slash, the name is the default and the front is the
  directory. -/
  of_up_in : ∀ d, trimmed p = d ++ "/" ++ ".." →
    name = "customdb.log" ∧ directory = ofText (frontText d)
  /-- With a step up or in place that stands alone, the name is the default and the directory has
  no step. -/
  of_step_alone : trimmed p = ".." ∨ trimmed p = "." →
    name = "customdb.log" ∧ directory = ofText ""
  /-- With no part that counts, the name is the default and the directory is the current one. -/
  of_nothing : trimmed p = "" → name = "customdb.log" ∧ directory = ofText "."

/-- The name that is chosen can be that of a file. -/
theorem isFileName_chosen (p : String) : IsFileName (chosen p).2 := by
  have hdefault : IsFileName "customdb.log" := ⟨by decide, by decide, by decide, by decide⟩
  rw [← chosen_trimmed]
  rcases trimmed_cases p with h | h | h | h | ⟨d, n, h, rfl | hname⟩
  · rw [h]
    exact hdefault
  · rw [h]
    exact hdefault
  · rw [h]
    exact hdefault
  · rw [chosen_name_alone h]
    exact h
  · rw [h, chosen_up_in]
    exact hdefault
  · rw [h, chosen_name_in hname]
    exact hname

/-- **The choice**, case by case. -/
theorem chosenBy_chosen (p : String) : ChosenBy p (chosen p).1 (chosen p).2 where
  isFileName := isFileName_chosen p
  of_name_in d n h hn := by
    rw [← chosen_trimmed, h, chosen_name_in hn]
    exact ⟨rfl, rfl⟩
  of_name_alone h := by
    rw [← chosen_trimmed, chosen_name_alone h]
    exact ⟨rfl, rfl⟩
  of_up_in d h := by
    rw [← chosen_trimmed, h, chosen_up_in]
    exact ⟨rfl, rfl⟩
  of_step_alone h := by
    rw [← chosen_trimmed]
    rcases h with h | h <;> rw [h] <;> exact ⟨rfl, rfl⟩
  of_nothing h := by
    rw [← chosen_trimmed, h]
    exact ⟨rfl, rfl⟩

end Path

namespace Session

/-- The session with its lines going elsewhere. -/
def writingTo (s : Session) (output : Output) : Session :=
  { s with config := { s.config with output := output } }

/-- With any filter, trimming the path changes nothing. -/
theorem runWith_trimmed (s : Session) (f : Filter) (p : String) :
    (s.writingTo (.file (Path.trimmed p))).runWith f = (s.writingTo (.file p)).runWith f ∧
      (s.writingTo (.both (Path.trimmed p))).runWith f = (s.writingTo (.both p)).runWith f := by
  obtain ⟨hdirectory, hname⟩ := Prod.mk.inj (Path.chosen_trimmed p)
  have hnames : (Path.ofText (Path.trimmed p)).namesAllowed = (Path.ofText p).namesAllowed := by
    rw [Path.namesAllowed, hdirectory, hname, Path.namesAllowed]
  have hlength : Path.lengthAllowed (Path.trimmed p) = Path.lengthAllowed p := by
    rw [Path.lengthAllowed, Path.bytesBefore_trimmed, hname, Path.lengthAllowed]
  constructor
  all_goals
    simp only [writingTo, runWith, canStart, files, logFile?, logPath?, existingPlaces,
      Output.path?, Option.map_some, Option.bind_eq_bind, Option.bind_some, hnames, hlength,
      hdirectory, hname]
    rfl

/-- Two sessions with the same texts for the filter run alike if they do so with every filter. -/
theorem run_congr {s t : Session} {patterns : Patterns} (henv : s.environment = t.environment)
    (hlevel : s.config.level = t.config.level) (h : ∀ f, s.runWith f = t.runWith f) :
    s.run patterns = t.run patterns := by
  rw [run, run, henv, hlevel]
  split
  · rfl
  · exact h _

/-- **Trimming** the path changes nothing about a run: neither whether it starts, nor what is
written, nor where. -/
theorem run_trimmed (s : Session) (patterns : Patterns) (p : String) :
    (s.writingTo (.file (Path.trimmed p))).run patterns =
        (s.writingTo (.file p)).run patterns ∧
      (s.writingTo (.both (Path.trimmed p))).run patterns =
        (s.writingTo (.both p)).run patterns :=
  ⟨run_congr rfl rfl fun f => (s.runWith_trimmed f p).1,
    run_congr rfl rfl fun f => (s.runWith_trimmed f p).2⟩

/-- **The file that is logged to.** Let a session log to a file, or to standard output and a file,
at any path. Then the directory and the name of its log file are those that the text of the path
chooses, and a slash, or a slash with a point, at the end of the text would change neither. -/
theorem chosenBy_logPath {s : Session} {p : String}
    (h : s.config.output = .file p ∨ s.config.output = .both p) :
    ∃ path, s.logPath? = some path ∧ Path.ChosenBy p path.logDirectory path.logName ∧
      ∀ idle, idle = "/" ∨ idle = "/." →
        (Path.ofText (p ++ idle)).logDirectory = path.logDirectory ∧
          (Path.ofText (p ++ idle)).logName = path.logName := by
  have hpath : s.logPath? = some (Path.ofText p) := by
    rcases h with h | h <;> rw [logPath?, h] <;> rfl
  refine ⟨Path.ofText p, hpath, Path.chosenBy_chosen p, ?_⟩
  rintro idle (rfl | rfl)
  · exact Prod.mk.inj (Path.chosen_append_slash p)
  · exact Prod.mk.inj (Path.chosen_append_point p)

/-- The name stands before the last parts that count for nothing, and others stand at the end of
what is before it. -/
theorem chosenBy_logPath_idle :
    let s : Session := ⟨Config.info.set (.both "a//./b.log/./"), none, [], []⟩
    s.config.output = .both "a//./b.log/./" ∧
      s.logPath?.map (fun path => (path.logDirectory, path.logName)) =
        some (Path.ofText "a", "b.log") := by
  intro s
  have houtput : s.config.output = .both "a//./b.log/./" := rfl
  refine ⟨houtput, ?_⟩
  obtain ⟨path, hpath, hchosen, -⟩ := chosenBy_logPath (Or.inr houtput)
  obtain ⟨hname, hdirectory⟩ := hchosen.of_name_in "a//." "b.log" (by decide)
    ⟨by decide, by decide, by decide, by decide⟩
  rw [hpath, Option.map_some, hname, hdirectory]
  decide

end Session

end Log

end QueryScan
