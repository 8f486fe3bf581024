import QueryScan.Lexeme

/-!
# Maximal Munch

`Lexeme.first?` says how a lexeme is split off a text; this module says what the pieces of
a text are, without mentioning how they are found. A lexeme is well formed if its first
character belongs to its class and every further one continues it, and it ends before a
text that does not begin with a character that continues it. These two conditions determine
the first lexeme of a text (`Lexeme.first?_eq_some_iff`).

`Munch cs ls rest` iterates the step: the text `cs` begins with the lexemes `ls`, each as
long as it can be, and `rest` is left over. Every text is munched up to its end or to a
character of no class, and in one way only. `Segmentation` is the case in which nothing is
left, stated of the pieces and their neighbours instead of step by step.

## Main results

* `Lexeme.first?_eq_some_iff`: the first lexeme is the well-formed piece at the front of
  the text that ends before the rest of it.
* `exists_munch`, `Munch.unique`: a text can be munched until no lexeme is ahead, and the
  lexemes and what is left are determined by the text.
* `segmentation_iff_munch`: the segmentations of a text are the ways to munch it whole.
-/

namespace QueryScan

/-- The characters with which a lexeme of the class goes on after its first. -/
def CharClass.continues : CharClass → Char → Bool
  | letter => isWordChar
  | digit => isDigit
  | operator => fun _ => false
  | punctuation => fun _ => false

/-- A character that belongs to a class belongs to no other, so the case distinction of
`Lexeme.first?` arrives at the class whichever way it is ordered. -/
theorem CharClass.eq_of_holds {k k' : CharClass} {c : Char} (h : k.holds c = true)
    (h' : k'.holds c = true) : k = k' := by
  have hmem := mem_classes_iff.mpr h
  have hmem' := mem_classes_iff.mpr h'
  have hld := isLetter_and_isDigit c
  have ho := @classes_of_isOperator c
  have hp := @classes_of_isPunctuation c
  cases k <;> cases k' <;> simp_all [holds]

/-- A character of one class is of no other. -/
theorem CharClass.holds_eq_false {k : CharClass} {c : Char} (h : k.holds c = true)
    (k' : CharClass) (hne : k' ≠ k) : k'.holds c = false := by
  cases hk' : k'.holds c with
  | false => rfl
  | true => exact absurd (eq_of_holds hk' h) hne

/-- A character without a class belongs to none. -/
theorem CharClass.holds_eq_false_of_classes {c : Char} (h : classes c = []) (k : CharClass) :
    k.holds c = false := by
  cases hk : k.holds c with
  | false => rfl
  | true => exact absurd (mem_classes_iff.mpr hk) (by simp [h])

namespace Lexeme

/-- A lexeme is **well formed** if its first character belongs to its class and all others
continue it: a letter followed by letters, digits and `_`, a run of digits, a single
operator or a single punctuation mark. -/
def WellFormed (l : Lexeme) : Prop :=
  ∃ c cs, l.chars = c :: cs ∧ l.start.holds c = true ∧ ∀ d ∈ cs, l.start.continues d = true

/-- A lexeme **ends before** a text that does not begin with a character continuing it. -/
def EndsBefore (l : Lexeme) (rest : List Char) : Prop :=
  ∀ c ∈ rest.head?, l.start.continues c = false

/-- The characters of some lexemes, one lexeme after the other. -/
def joined (ls : List Lexeme) : List Char :=
  ls.flatMap chars

/-- No lexemes, no characters. -/
@[simp] theorem joined_nil : joined [] = [] := rfl

/-- The characters of the first lexeme come first. -/
@[simp] theorem joined_cons (l : Lexeme) (ls : List Lexeme) :
    joined (l :: ls) = l.chars ++ joined ls := rfl

/-- The lengths of the lexemes add up. -/
theorem length_joined_cons (l : Lexeme) (ls : List Lexeme) :
    (joined (l :: ls)).length = l.length + (joined ls).length := by
  rw [joined_cons, List.length_append, length]

/-- Joining distributes over concatenation. -/
@[simp] theorem joined_append (ls ms : List Lexeme) :
    joined (ls ++ ms) = joined ls ++ joined ms := by
  simp [joined]

/-- A well-formed lexeme has characters. -/
theorem WellFormed.chars_ne_nil {l : Lexeme} (h : l.WellFormed) : l.chars ≠ [] := by
  obtain ⟨c, cs, hc, -, -⟩ := h
  simp [hc]

/-- The class of the first character decides alone how far the first lexeme reaches. -/
theorem first?_cons_of_holds {k : CharClass} {c : Char} (h : k.holds c = true)
    (cs : List Char) :
    first? (c :: cs) =
      some (⟨k, c :: cs.takeWhile k.continues⟩, cs.dropWhile k.continues) := by
  have htake : cs.takeWhile (fun _ => false) = [] := by cases cs <;> rfl
  have hdrop : cs.dropWhile (fun _ => false) = cs := by cases cs <;> rfl
  have hl : k ≠ .letter → ¬ isLetter c = true := fun hk =>
    Bool.eq_false_iff.mp (CharClass.holds_eq_false h .letter hk.symm)
  have hd : k ≠ .digit → ¬ isDigit c = true := fun hk =>
    Bool.eq_false_iff.mp (CharClass.holds_eq_false h .digit hk.symm)
  have ho : k ≠ .operator → ¬ isOperator c = true := fun hk =>
    Bool.eq_false_iff.mp (CharClass.holds_eq_false h .operator hk.symm)
  cases k with
  | letter =>
      have hc : isLetter c = true := h
      rw [first?, if_pos hc]
      rfl
  | digit =>
      have hc : isDigit c = true := h
      rw [first?, if_neg (hl (by simp)), if_pos hc]
      rfl
  | operator =>
      have hc : isOperator c = true := h
      rw [first?, if_neg (hl (by simp)), if_neg (hd (by simp)), if_pos hc, CharClass.continues,
        htake, hdrop]
  | punctuation =>
      have hc : isPunctuation c = true := h
      rw [first?, if_neg (hl (by simp)), if_neg (hd (by simp)), if_neg (ho (by simp)),
        if_pos hc, CharClass.continues, htake, hdrop]

/-- Every first lexeme is the run that starts with a character of its class. -/
theorem exists_of_first? {cs rest : List Char} {l : Lexeme} (h : first? cs = some (l, rest)) :
    ∃ c tail, cs = c :: tail ∧ l.start.holds c = true ∧
      l.chars = c :: tail.takeWhile l.start.continues ∧
      rest = tail.dropWhile l.start.continues := by
  cases cs with
  | nil => exact absurd h (by simp)
  | cons c tail =>
      have hne : classes c ≠ [] := by
        intro hnil
        rw [first?_eq_none_iff.mpr (by simp [hnil])] at h
        exact absurd h (by simp)
      obtain ⟨k, hk⟩ := List.exists_mem_of_ne_nil _ hne
      rw [first?_cons_of_holds (mem_classes_iff.mp hk)] at h
      obtain ⟨rfl, rfl⟩ := Prod.mk.inj (Option.some.inj h)
      exact ⟨c, tail, rfl, mem_classes_iff.mp hk, rfl, rfl⟩

/-- A lexeme that is split off is well formed. -/
theorem wellFormed_of_first? {cs rest : List Char} {l : Lexeme}
    (h : first? cs = some (l, rest)) : l.WellFormed := by
  obtain ⟨c, tail, -, hk, hchars, -⟩ := exists_of_first? h
  refine ⟨c, _, hchars, hk, ?_⟩
  intro d hd
  exact List.all_eq_true.mp List.all_takeWhile d hd

/-- A lexeme ends before a text without the characters at its front that continue it. -/
theorem endsBefore_dropWhile (l : Lexeme) (cs : List Char) :
    l.EndsBefore (cs.dropWhile l.start.continues) := by
  intro d hd
  have hhead := List.head?_dropWhile_not l.start.continues cs
  rw [Option.mem_def.mp hd] at hhead
  simpa using hhead

/-- A lexeme that is split off ends before what follows it. -/
theorem endsBefore_of_first? {cs rest : List Char} {l : Lexeme}
    (h : first? cs = some (l, rest)) : l.EndsBefore rest := by
  obtain ⟨c, tail, -, -, -, rfl⟩ := exists_of_first? h
  exact l.endsBefore_dropWhile tail

/-- The well-formed piece at the front of a text that ends before the rest of it is split
off. -/
theorem first?_append {rest : List Char} {l : Lexeme} (hw : l.WellFormed)
    (he : l.EndsBefore rest) : first? (l.chars ++ rest) = some (l, rest) := by
  obtain ⟨c, tail, hchars, hk, htail⟩ := hw
  have hstop : rest.takeWhile l.start.continues = [] ∧
      rest.dropWhile l.start.continues = rest := by
    cases rest with
    | nil => exact ⟨rfl, rfl⟩
    | cons d rest =>
        have hd : l.start.continues d = false := he d rfl
        simp [hd]
  rw [hchars, List.cons_append, first?_cons_of_holds hk, List.takeWhile_append_of_pos htail,
    List.dropWhile_append_of_pos htail, hstop.1, hstop.2, List.append_nil, ← hchars]

/-- **The first lexeme of a text** is the well-formed piece at its front that ends before
the rest of it. -/
theorem first?_eq_some_iff {cs rest : List Char} {l : Lexeme} :
    first? cs = some (l, rest) ↔
      l.WellFormed ∧ l.EndsBefore rest ∧ l.chars ++ rest = cs := by
  constructor
  · intro h
    exact ⟨wellFormed_of_first? h, endsBefore_of_first? h, chars_append_of_first? h⟩
  · rintro ⟨hw, he, rfl⟩
    exact first?_append hw he

end Lexeme

open Lexeme

/-! ### Munching a text -/

/-- `Munch cs ls rest`: the text `cs` begins with the lexemes `ls`, each as long as it can
be, and `rest` is left over. -/
inductive Munch : List Char → List Lexeme → List Char → Prop
  | nil (cs : List Char) : Munch cs [] cs
  | cons {l : Lexeme} {cs rest : List Char} {ls : List Lexeme} :
      l.WellFormed → l.EndsBefore cs → Munch cs ls rest → Munch (l.chars ++ cs) (l :: ls) rest

/-- Nothing is lost: the lexemes and what is left over make up the text. -/
theorem Munch.joined_append {cs rest : List Char} {ls : List Lexeme} (h : Munch cs ls rest) :
    joined ls ++ rest = cs := by
  induction h with
  | nil cs => rfl
  | cons _ _ _ ih => rw [joined_cons, List.append_assoc, ih]

/-- If nothing is left over, the lexemes make up the text. -/
theorem Munch.joined_eq {cs : List Char} {ls : List Lexeme} (h : Munch cs ls []) :
    joined ls = cs := by
  rw [← h.joined_append, List.append_nil]

/-- Inversion of a munch without a lexeme: everything is left over. -/
theorem Munch.nil_inv {cs rest : List Char} (h : Munch cs [] rest) : rest = cs := by
  cases h with
  | nil => rfl

/-- Inversion of a munch with a lexeme: the first lexeme of the text comes first. -/
theorem Munch.cons_inv {cs rest : List Char} {l : Lexeme} {ls : List Lexeme}
    (h : Munch cs (l :: ls) rest) :
    ∃ cs', first? cs = some (l, cs') ∧ Munch cs' ls rest := by
  cases h with
  | cons hw he h => exact ⟨_, first?_append hw he, h⟩

/-- The lexemes of a munched text are well formed. -/
theorem Munch.wellFormed {cs rest : List Char} {ls : List Lexeme} (h : Munch cs ls rest) :
    ∀ l ∈ ls, l.WellFormed := by
  induction h with
  | nil cs => simp
  | cons hw _ _ ih =>
      intro m hm
      rcases List.mem_cons.mp hm with rfl | hm
      · exact hw
      · exact ih m hm

/-- The lexemes of a munched text end before the text after them. -/
theorem Munch.endsBefore {cs rest : List Char} {ls : List Lexeme} (h : Munch cs ls rest) :
    ∀ before l after, ls = before ++ l :: after → l.EndsBefore (joined after ++ rest) := by
  induction h with
  | nil cs =>
      intro before l after heq
      exact absurd heq (by simp)
  | cons _ he hm ih =>
      intro before m after heq
      cases before with
      | nil =>
          obtain ⟨rfl, rfl⟩ := List.cons.inj heq
          rw [hm.joined_append]
          exact he
      | cons b before => exact ih before m after (List.cons.inj heq).2

/-- Every text can be munched until no lexeme is ahead. Induction on the length of the
text. -/
theorem exists_munch (cs : List Char) : ∃ ls rest, Munch cs ls rest ∧ first? rest = none := by
  induction hn : cs.length using Nat.strongRecOn generalizing cs with
  | ind n ih =>
      cases hf : first? cs with
      | none => exact ⟨[], cs, Munch.nil cs, hf⟩
      | some p =>
          obtain ⟨l, cs'⟩ := p
          obtain ⟨ls, rest, hm, hrest⟩ := ih cs'.length (hn ▸ length_lt_of_first? hf) cs' rfl
          obtain ⟨hw, he, rfl⟩ := first?_eq_some_iff.mp hf
          exact ⟨l :: ls, rest, Munch.cons hw he hm, hrest⟩

/-- **Munching is deterministic**: the lexemes up to the first place with no lexeme ahead,
and that place, are determined by the text. -/
theorem Munch.unique {cs rest rest' : List Char} {ls ls' : List Lexeme}
    (h : Munch cs ls rest) (h' : Munch cs ls' rest') (hrest : first? rest = none)
    (hrest' : first? rest' = none) : ls = ls' ∧ rest = rest' := by
  induction h generalizing ls' with
  | nil cs =>
      cases h' with
      | nil => exact ⟨rfl, rfl⟩
      | cons hw he _ =>
          rw [first?_append hw he] at hrest
          exact absurd hrest (by simp)
  | @cons l cs rest ls hw he _ ih =>
      have hf := first?_append hw he
      cases ls' with
      | nil =>
          rw [h'.nil_inv, hf] at hrest'
          exact absurd hrest' (by simp)
      | cons l' ls' =>
          obtain ⟨cs', hf', h'⟩ := h'.cons_inv
          rw [hf] at hf'
          obtain ⟨rfl, rfl⟩ := Prod.mk.inj (Option.some.inj hf')
          obtain ⟨rfl, rfl⟩ := ih h' hrest
          exact ⟨rfl, rfl⟩

/-! ### Segmentations -/

/-- A **segmentation** of a text: consecutive well-formed lexemes that make up the text, none
of which is followed by a character that continues it. -/
structure Segmentation (text : List Char) (ls : List Lexeme) : Prop where
  /-- The lexemes make up the text. -/
  joined_eq : joined ls = text
  /-- Each is well formed. -/
  wellFormed : ∀ l ∈ ls, l.WellFormed
  /-- Each ends before the text after it. -/
  endsBefore : ∀ before l after, ls = before ++ l :: after → l.EndsBefore (joined after)

/-- **The segmentations of a text** are the ways to munch it whole. -/
theorem segmentation_iff_munch {cs : List Char} {ls : List Lexeme} :
    Segmentation cs ls ↔ Munch cs ls [] := by
  constructor
  · intro h
    induction ls generalizing cs with
    | nil =>
        obtain rfl : [] = cs := h.joined_eq
        exact Munch.nil []
    | cons l ls ih =>
        obtain rfl : l.chars ++ joined ls = cs := h.joined_eq
        refine Munch.cons (h.wellFormed l (by simp)) (h.endsBefore [] l ls rfl) (ih ⟨rfl, ?_, ?_⟩)
        · intro m hm
          exact h.wellFormed m (by simp [hm])
        · intro before m after heq
          exact h.endsBefore (l :: before) m after (by simp [heq])
  · intro h
    refine ⟨h.joined_eq, h.wellFormed, ?_⟩
    intro before l after heq
    simpa using h.endsBefore before l after heq

/-- A text has at most one segmentation. -/
theorem Segmentation.unique {cs : List Char} {ls ls' : List Lexeme} (h : Segmentation cs ls)
    (h' : Segmentation cs ls') : ls = ls' :=
  ((segmentation_iff_munch.mp h).unique (segmentation_iff_munch.mp h') first?_nil first?_nil).1

end QueryScan
