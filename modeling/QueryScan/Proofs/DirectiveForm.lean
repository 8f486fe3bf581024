import QueryScan.Log.Filter
import QueryScan.Proofs.Outcome

/-!
# The Form of Directives

A directive is read character by character, and cut by bytes. This module says what is read from
a text that has the form of a directive, and has no blanks at its ends: the parts that it was put
together from.

## Conventions

A stage reads a **stretch** of characters that end nothing and leaves the stage as it is. Only the
characters that end a part lead from one stage to the next. Before each stretch the text is parted
into what has been read and what is still to come, so the bytes that have been counted are those
of the former.

## Main results

* `slice_append`: cutting by bytes gives back what a text was put together from.
* `Directive.ofText_plain`, `Directive.ofText_pair`, `Directive.ofText_span`,
  `Directive.ofText_field`: **what is read** from each form of a directive.
* `Directive.ofText_blank_pair`: what is not read for the sake of a blank.
* `Filter.ofText_word`, `Filter.ofText_spanWord`: what is read from a plain level, and from one
  behind the name of a span.
-/

namespace QueryScan

namespace Log

/-! ### Cutting what was put together -/

/-- The number of bytes of some characters. -/
def byteLength : List Char → Nat
  | [] => 0
  | c :: cs => c.utf8Size + byteLength cs

/-- The bytes of two texts are counted one after the other. -/
theorem byteLength_append (xs ys : List Char) :
    byteLength (xs ++ ys) = byteLength xs + byteLength ys := by
  induction xs with
  | nil => simp [byteLength]
  | cons c xs ih => rw [List.cons_append, byteLength, byteLength, ih, Nat.add_assoc]

/-- One more character has its own bytes more. -/
theorem byteLength_concat (xs : List Char) (c : Char) :
    byteLength (xs ++ [c]) = byteLength xs + c.utf8Size := by
  rw [byteLength_append, byteLength, byteLength, Nat.add_zero]

/-- A part and the character that ends it are read when their bytes have been counted. -/
theorem byteLength_part (front part : List Char) (c : Char) :
    byteLength front + byteLength part + c.utf8Size = byteLength (front ++ (part ++ [c])) := by
  rw [byteLength_append, byteLength_concat, Nat.add_assoc]

/-- A text is parted behind the bytes of its front. -/
theorem splitBytes?_append (front back : List Char) :
    splitBytes? (front ++ back) (byteLength front) = some (front, back) := by
  induction front with
  | nil => cases back <;> rfl
  | cons c front ih =>
      have hpos := c.utf8Size_pos
      obtain ⟨n, hn⟩ : ∃ n, byteLength (c :: front) = n + 1 :=
        Nat.exists_eq_succ_of_ne_zero (by rw [byteLength]; omega)
      have hle : c.utf8Size ≤ n + 1 := by rw [← hn, byteLength]; omega
      have hrest : n + 1 - c.utf8Size = byteLength front := by rw [← hn, byteLength]; omega
      rw [hn, List.cons_append, splitBytes?, if_pos hle, hrest, ih]
      rfl

/-- What stands behind the bytes of the front is the back. -/
theorem sliceFrom_append (front back : List Char) :
    sliceFrom (front ++ back) (byteLength front) = .ok back := by
  rw [sliceFrom, splitBytes?_append]

/-- **What stands in the middle** stands between the bytes of the front and those of the front and
the middle. -/
theorem slice_append (front middle back : List Char) :
    slice (front ++ (middle ++ back)) (byteLength front) (byteLength front + byteLength middle) =
      .ok middle := by
  refine bind_eq_ok_iff.mpr ⟨_, sliceFrom_append front _, ?_⟩
  rw [Nat.add_sub_cancel_left, splitBytes?_append]

/-- What a text was put together from stands between its beginning and the bytes of its front. -/
theorem slice_zero_append (front back : List Char) :
    slice (front ++ back) 0 (byteLength front) = .ok front := by
  have hslice := slice_append [] front back
  rwa [List.nil_append, byteLength, Nat.zero_add] at hslice

namespace Directive

variable {patterns : Patterns} {text : List Char} {d : Directive} {stage : Stage}

/-! ### Stretches -/

/-- A character that ends nothing leads on. -/
theorem readFrom_cons {c : Char} {i : Nat} {d' : Directive} {stage' : Stage}
    (h : step patterns text d stage i c = .ok (d', stage')) (cs : List Char) :
    readFrom patterns text d stage i (c :: cs) =
      readFrom patterns text d' stage' (i + c.utf8Size) cs := by
  rw [readFrom, h]
  rfl

/-- **A stretch**: characters that leave a stage as it is are passed over. -/
theorem readFrom_stretch {cs : List Char}
    (h : ∀ c ∈ cs, ∀ i, step patterns text d stage i c = .ok (d, stage)) (i : Nat)
    (rest : List Char) :
    readFrom patterns text d stage i (cs ++ rest) =
      readFrom patterns text d stage (i + byteLength cs) rest := by
  induction cs generalizing i with
  | nil => rfl
  | cons c cs ih =>
      rw [List.cons_append, readFrom_cons (h c List.mem_cons_self i), byteLength,
        ← Nat.add_assoc]
      exact ih (fun c hc => h c (List.mem_cons_of_mem _ hc)) _

/-- A level or a target is ended by `=` and by a bracket only. -/
theorem step_name {c : Char} (h : c ≠ '=' ∧ c ≠ '[') (i : Nat) :
    step patterns text d .name i c = .ok (d, .name) := by
  rw [step, if_neg h.1, if_neg h.2]

/-- A span is ended by a bracket and by a brace only. -/
theorem step_span {c : Char} (h : c ≠ ']' ∧ c ≠ '\x7b') (first i : Nat) :
    step patterns text d (.span first) i c = .ok (d, .span first) := by
  rw [step, if_neg h.1, if_neg h.2]

/-- A field is ended by a brace only. -/
theorem step_field {c : Char} (h : c ≠ '\x7d') (first i : Nat) :
    step patterns text d (.field first) i c = .ok (d, .field first) := by
  rw [step, if_neg h]

/-- A level is ended by the end of the text only. -/
theorem readFrom_level (front level : List Char) (i : Nat) (cs : List Char) :
    readFrom patterns (front ++ level) d (.level (byteLength front)) i cs = d.ofLevel level := by
  have hstretch : readFrom patterns (front ++ level) d (.level (byteLength front)) i (cs ++ []) =
      readFrom patterns (front ++ level) d (.level (byteLength front)) (i + byteLength cs) [] :=
    readFrom_stretch (fun _ _ _ => rfl) i []
  rw [List.append_nil] at hstretch
  rw [hstretch, readFrom, finish, sliceFrom_append]
  rfl

/-! ### Parts -/

/-- The text of a level, behind its `=`, if one is given. -/
def levelText : Option (List Char) → List Char
  | none => []
  | some level => '=' :: level

/-- The directive with the level that is given, if one is. -/
def withLevel (d : Directive) : Option (List Char) → Except ReadError Directive
  | none => .ok d
  | some level => d.ofLevel level

/-- Behind the brackets there is a level or the end. -/
theorem readFrom_done (front : List Char) (level? : Option (List Char)) :
    readFrom patterns (front ++ levelText level?) d .done (byteLength front) (levelText level?) =
      d.withLevel level? := by
  cases level? with
  | none => rfl
  | some level =>
      have hstep : step patterns (front ++ '=' :: level) d .done (byteLength front) '=' =
          .ok (d, .level (byteLength front + 1)) := rfl
      have hfirst : byteLength front + 1 = byteLength (front ++ ['=']) :=
        (byteLength_concat front '=').symm
      have htext : front ++ '=' :: level = (front ++ ['=']) ++ level := by simp
      rw [levelText, readFrom_cons hstep, htext, hfirst]
      exact readFrom_level (front ++ ['=']) level _ level

/-- A span that is ended by a bracket has the name before it. -/
theorem readFrom_bracket (front : List Char) {name : List Char}
    (hname : ∀ c ∈ name, c ≠ ']' ∧ c ≠ '\x7b') (rest : List Char) :
    readFrom patterns (front ++ (name ++ ']' :: rest)) d (.span (byteLength front))
        (byteLength front) (name ++ ']' :: rest) =
      readFrom patterns (front ++ (name ++ ']' :: rest))
        { d with span := some (String.ofList name) } .done
        (byteLength (front ++ (name ++ [']']))) rest := by
  have hend : step patterns (front ++ (name ++ ']' :: rest)) d (.span (byteLength front))
      (byteLength front + byteLength name) ']' =
        .ok ({ d with span := some (String.ofList name) }, .done) := by
    rw [step, if_pos rfl, slice_append]
    rfl
  rw [readFrom_stretch fun c hc => step_span (hname c hc) _, readFrom_cons hend, byteLength_part]

/-- A span that is ended by a brace has the name before it, if there is one. -/
theorem readFrom_brace (front : List Char) {name : List Char}
    (hname : ∀ c ∈ name, c ≠ ']' ∧ c ≠ '\x7b') (rest : List Char) :
    readFrom patterns (front ++ (name ++ '\x7b' :: rest)) d (.span (byteLength front))
        (byteLength front) (name ++ '\x7b' :: rest) =
      readFrom patterns (front ++ (name ++ '\x7b' :: rest)) { d with span := nameOf? name }
        (.field (byteLength (front ++ (name ++ ['\x7b']))))
        (byteLength (front ++ (name ++ ['\x7b']))) rest := by
  have hend : step patterns (front ++ (name ++ '\x7b' :: rest)) d (.span (byteLength front))
      (byteLength front + byteLength name) '\x7b' =
        .ok ({ d with span := nameOf? name },
          .field (byteLength front + byteLength name + 1)) := by
    rw [step, if_neg (by decide), if_pos rfl, slice_append]
    rfl
  have hfirst : byteLength front + byteLength name + 1 =
      byteLength (front ++ (name ++ ['\x7b'])) := byteLength_part front name '\x7b'
  rw [readFrom_stretch fun c hc => step_span (hname c hc) _, readFrom_cons hend, byteLength_part,
    hfirst]

/-- A field is read between its braces. -/
theorem readFrom_field (front : List Char) {field : List Char} {f : FieldFilter}
    (hend : ∀ c ∈ field, c ≠ '\x7d') (hne : field ≠ [])
    (hread : FieldFilter.ofText? patterns field = some f) (rest : List Char) :
    readFrom patterns (front ++ (field ++ '\x7d' :: ']' :: rest)) d (.field (byteLength front))
        (byteLength front) (field ++ '\x7d' :: ']' :: rest) =
      readFrom patterns (front ++ (field ++ '\x7d' :: ']' :: rest)) { d with field := some f }
        .done (byteLength (front ++ (field ++ ['\x7d', ']']))) rest := by
  have hbrace : step patterns (front ++ (field ++ '\x7d' :: ']' :: rest)) d
      (.field (byteLength front)) (byteLength front + byteLength field) '\x7d' =
        .ok ({ d with field := some f }, .closed) := by
    have hempty : field.isEmpty = false := List.isEmpty_eq_false_iff.mpr hne
    rw [step, if_pos rfl, slice_append]
    change (if field.isEmpty = true then _ else _) = _
    rw [hempty, if_neg Bool.false_ne_true, hread]
  have hbracket : step patterns (front ++ (field ++ '\x7d' :: ']' :: rest))
      { d with field := some f } .closed
      (byteLength front + byteLength field + '\x7d'.utf8Size) ']' =
        .ok ({ d with field := some f }, .done) := rfl
  have hlast : byteLength front + byteLength field + '\x7d'.utf8Size + ']'.utf8Size =
      byteLength (front ++ (field ++ ['\x7d', ']'])) := by
    rw [byteLength_append, byteLength_append, byteLength, byteLength, byteLength, Nat.add_zero]
    omega
  rw [readFrom_stretch fun c hc => step_field (hend c hc) _, readFrom_cons hbrace,
    readFrom_cons hbracket, hlast]

/-! ### Whole directives -/

/-- A level or a target is begun by a character that opens it, and read up to one that ends
it. -/
theorem readFrom_start {target : List Char} (hne : target ≠ [])
    (hopens : ∀ c ∈ target.head?, opens c = true) (hplain : ∀ c ∈ target, c ≠ '=' ∧ c ≠ '[')
    (rest : List Char) :
    readFrom patterns text d .start 0 (target ++ rest) =
      readFrom patterns text d .name (byteLength target) rest := by
  obtain ⟨c, cs, rfl⟩ := List.exists_cons_of_ne_nil hne
  have hstep : step patterns text d .start 0 c = .ok (d, .name) := by
    rw [step, if_neg (hplain c List.mem_cons_self).2, if_pos (hopens c rfl)]
  have hcs : ∀ c ∈ cs, c ≠ '=' ∧ c ≠ '[' := fun c hc => hplain c (List.mem_cons_of_mem _ hc)
  rw [List.cons_append, readFrom_cons hstep, readFrom_stretch fun c hc => step_name (hcs c hc),
    Nat.zero_add]
  rfl

/-- **A text without brackets and `=`** is a level if it can be, and else a target. Blanks at its
ends are passed over, but belong to it. -/
theorem ofText_plain (hne : trim text ≠ []) (hopens : ∀ c ∈ (trim text).head?, opens c = true)
    (hplain : ∀ c ∈ trim text, c ≠ '=' ∧ c ≠ '[') : ofText patterns text = .ok (ofPlain text) := by
  rw [ofText, ← List.append_nil (trim text), readFrom_start hne hopens hplain]
  rfl

/-- **A target with a level** is about the target. -/
theorem ofText_pair {target level : List Char}
    (htrim : trim (target ++ '=' :: level) = target ++ '=' :: level) (hne : target ≠ [])
    (hopens : ∀ c ∈ target.head?, opens c = true) (hplain : ∀ c ∈ target, c ≠ '=' ∧ c ≠ '[') :
    ofText patterns (target ++ '=' :: level) =
      ofLevel ⟨some (String.ofList target), none, none, .upTo .trace⟩ level := by
  have hend : step patterns (target ++ '=' :: level) ⟨none, none, none, .upTo .trace⟩ .name
      (byteLength target) '=' =
        .ok (⟨some (String.ofList target), none, none, .upTo .trace⟩,
          .level (byteLength target + 1)) := by
    rw [step, if_pos rfl, slice_zero_append]
    rfl
  have htext : target ++ '=' :: level = (target ++ ['=']) ++ level := by simp
  have hfirst : byteLength target + 1 = byteLength (target ++ ['=']) :=
    (byteLength_concat target '=').symm
  rw [ofText, htrim, readFrom_start hne hopens hplain, readFrom_cons hend, hfirst, htext]
  exact readFrom_level (target ++ ['=']) level _ level

/-- **A blank before a target with a level** makes the directive unreadable: both are cut out one
byte too early, so the level begins with `=`. -/
theorem ofText_blank_pair {b last : Char} {front level : List Char} (hb : b.utf8Size = 1)
    (hlast : last.utf8Size = 1)
    (htrim : trim (b :: (front ++ [last] ++ '=' :: level)) = front ++ [last] ++ '=' :: level)
    (hopens : ∀ c ∈ (front ++ [last]).head?, opens c = true)
    (hplain : ∀ c ∈ front ++ [last], c ≠ '=' ∧ c ≠ '[') :
    ofText patterns (b :: (front ++ [last] ++ '=' :: level)) = .error .malformed := by
  have htarget : b :: (front ++ [last] ++ '=' :: level) = (b :: front) ++ last :: '=' :: level := by
    simp
  have hread : byteLength (front ++ [last]) = byteLength (b :: front) := by
    rw [byteLength_concat, byteLength, hb, hlast, Nat.add_comm]
  have hend : step patterns (b :: (front ++ [last] ++ '=' :: level))
      ⟨none, none, none, .upTo .trace⟩ .name (byteLength (front ++ [last])) '=' =
        .ok (⟨some (String.ofList (b :: front)), none, none, .upTo .trace⟩,
          .level (byteLength (front ++ [last]) + 1)) := by
    rw [step, if_pos rfl, htarget, hread, slice_zero_append]
    rfl
  have hfirst : byteLength (front ++ [last]) + 1 = byteLength (b :: (front ++ [last])) := by
    rw [byteLength, hb, Nat.add_comm]
  have hlevel : b :: (front ++ [last] ++ '=' :: level) =
      (b :: (front ++ [last])) ++ '=' :: level := rfl
  have hne : front ++ [last] ≠ [] := List.concat_ne_nil _ _
  rw [ofText, htrim, readFrom_start hne hopens hplain, readFrom_cons hend, hfirst, hlevel,
    readFrom_level, ofLevel, Threshold.ofText?_equals]
  rfl

example : ofText .ofTexts " t=debug".toList = .error .malformed := by decide +kernel

/-- A target, if there is one, is read up to the bracket behind it. -/
theorem readFrom_target {target : List Char} (hopens : ∀ c ∈ target.head?, opens c = true)
    (htarget : ∀ c ∈ target, c ≠ '=' ∧ c ≠ '[') (rest : List Char) :
    readFrom patterns (target ++ '[' :: rest) ⟨none, none, none, .upTo .trace⟩ .start 0
        (target ++ '[' :: rest) =
      readFrom patterns (target ++ '[' :: rest) ⟨nameOf? target, none, none, .upTo .trace⟩
        (.span (byteLength (target ++ ['[']))) (byteLength (target ++ ['['])) rest := by
  by_cases hne : target = []
  · rw [hne]
    exact readFrom_cons rfl rest
  · have hname : nameOf? target = some (String.ofList target) := by
      rw [nameOf?, List.isEmpty_eq_false_iff.mpr hne, if_neg Bool.false_ne_true]
    have hend : step patterns (target ++ '[' :: rest) ⟨none, none, none, .upTo .trace⟩ .name
        (byteLength target) '[' =
          .ok (⟨nameOf? target, none, none, .upTo .trace⟩, .span (byteLength target + 1)) := by
      rw [step, if_neg (by decide), if_pos rfl, slice_zero_append, hname]
      rfl
    have hfirst : byteLength target + 1 = byteLength (target ++ ['[']) :=
      (byteLength_concat target '[').symm
    rw [readFrom_start hne hopens htarget, readFrom_cons hend, hfirst, byteLength_concat]

/-- **A span in brackets**: the directive is about spans of this name, made for the target that
stands before them, if one does. -/
theorem ofText_span {target name : List Char} {level? : Option (List Char)}
    (htrim : trim (target ++ '[' :: (name ++ ']' :: levelText level?)) =
      target ++ '[' :: (name ++ ']' :: levelText level?))
    (hopens : ∀ c ∈ target.head?, opens c = true) (htarget : ∀ c ∈ target, c ≠ '=' ∧ c ≠ '[')
    (hname : ∀ c ∈ name, c ≠ ']' ∧ c ≠ '\x7b') :
    ofText patterns (target ++ '[' :: (name ++ ']' :: levelText level?)) =
      withLevel ⟨nameOf? target, some (String.ofList name), none, .upTo .trace⟩ level? := by
  have htext : target ++ '[' :: (name ++ ']' :: levelText level?) =
      (target ++ ['[']) ++ (name ++ ']' :: levelText level?) := by simp
  have hfront : (target ++ ['[']) ++ (name ++ ']' :: levelText level?) =
      ((target ++ ['[']) ++ (name ++ [']'])) ++ levelText level? := by simp
  rw [ofText, htrim, readFrom_target hopens htarget, htext, readFrom_bracket _ hname, hfront]
  exact readFrom_done _ level?

/-- **A field in braces**: the directive asks spans, and events, for the field. -/
theorem ofText_field {target name field : List Char} {f : FieldFilter}
    {level? : Option (List Char)}
    (htrim : trim (target ++ '[' :: (name ++ '\x7b' :: (field ++ '\x7d' :: ']' ::
        levelText level?))) =
      target ++ '[' :: (name ++ '\x7b' :: (field ++ '\x7d' :: ']' :: levelText level?)))
    (hopens : ∀ c ∈ target.head?, opens c = true) (htarget : ∀ c ∈ target, c ≠ '=' ∧ c ≠ '[')
    (hname : ∀ c ∈ name, c ≠ ']' ∧ c ≠ '\x7b') (hfield : ∀ c ∈ field, c ≠ '\x7d')
    (hne : field ≠ []) (hread : FieldFilter.ofText? patterns field = some f) :
    ofText patterns (target ++ '[' :: (name ++ '\x7b' :: (field ++ '\x7d' :: ']' ::
        levelText level?))) =
      withLevel ⟨nameOf? target, nameOf? name, some f, .upTo .trace⟩ level? := by
  have htext : target ++ '[' :: (name ++ '\x7b' :: (field ++ '\x7d' :: ']' ::
        levelText level?)) =
      (target ++ ['[']) ++ (name ++ '\x7b' :: (field ++ '\x7d' :: ']' :: levelText level?)) := by
    simp
  have hspan : (target ++ ['[']) ++ (name ++ '\x7b' :: (field ++ '\x7d' :: ']' ::
        levelText level?)) =
      ((target ++ ['[']) ++ (name ++ ['\x7b'])) ++
        (field ++ '\x7d' :: ']' :: levelText level?) := by simp
  have hfront : ((target ++ ['[']) ++ (name ++ ['\x7b'])) ++
        (field ++ '\x7d' :: ']' :: levelText level?) =
      (((target ++ ['[']) ++ (name ++ ['\x7b'])) ++ (field ++ ['\x7d', ']'])) ++
        levelText level? := by simp
  rw [ofText, htrim, readFrom_target hopens htarget, htext, readFrom_brace _ hname, hspan,
    readFrom_field _ hfield hne hread, hfront]
  exact readFrom_done _ level?

/-- A text with no blank at its ends is left as it is. -/
theorem trim_eq_self {cs : List Char} (hfirst : ∀ c ∈ cs.head?, isBlank c = false)
    (hlast : ∀ c ∈ cs.getLast?, isBlank c = false) : trim cs = cs := by
  have hdrop : ∀ xs : List Char, (∀ c ∈ xs.head?, isBlank c = false) →
      xs.dropWhile isBlank = xs := by
    intro xs hxs
    cases xs with
    | nil => rfl
    | cons c xs => rw [List.dropWhile_cons, hxs c rfl, if_neg Bool.false_ne_true]
  rw [trim, hdrop cs hfirst, hdrop cs.reverse (List.head?_reverse ▸ hlast), List.reverse_reverse]

end Directive

/-! ### Filters with one directive -/

/-- The plain level in words. -/
def Level.word : Level → String
  | error => "error"
  | warn => "warn"
  | info => "info"
  | debug => "debug"
  | trace => "trace"

/-- The characters in the word of a level end no part of a directive, and open one. -/
theorem Level.opens_of_mem_word {level : Level} {c : Char} (h : c ∈ level.word.toList) :
    Directive.opens c = true ∧ isBlank c = false ∧ c ≠ ',' ∧ c ≠ '=' ∧ c ≠ '[' := by
  have hall : (level.word.toList.all fun c => Directive.opens c && !isBlank c && c != ',' &&
      c != '=' && c != '[') = true := by
    cases level <;> decide +kernel
  simpa [and_assoc] using List.all_eq_true.mp hall c h

/-- The word of a level is not empty. -/
theorem Level.word_ne_nil (level : Level) : level.word.toList ≠ [] := by
  cases level <;> decide

/-- The word of a level leads back to it. -/
theorem Level.ofText?_word (level : Level) :
    Threshold.ofText? level.word.toList = some (.upTo level) := by
  cases level <;> decide +kernel

namespace Filter

variable {patterns : Patterns}

/-- A text without commas is read as a filter with one directive. -/
theorem ofText_part {part : List Char} {d : Directive} (hcomma : ',' ∉ part) (hne : part ≠ [])
    (hread : Directive.ofText patterns part = .ok d) :
    ofText patterns (String.ofList part) = .ok ⟨patterns, [d]⟩ := by
  have hparts : ((pieces ',' part).filter fun part => !part.isEmpty) = [part] := by
    rw [pieces_of_notMem hcomma]
    simp [hne]
  rw [ofText, String.toList_ofList, hparts, List.mapM_cons, List.mapM_nil, hread]
  rfl

/-- **A plain level**, in words, is read as the filter that lets everything through up to it. -/
theorem ofText_word (patterns : Patterns) (level : Level) :
    ofText patterns level.word = .ok (ofThreshold patterns (.upTo level)) := by
  have hword := fun c (hc : c ∈ level.word.toList) => Level.opens_of_mem_word hc
  have htrim : Directive.trim level.word.toList = level.word.toList :=
    Directive.trim_eq_self (fun c hc => (hword c (List.mem_of_mem_head? hc)).2.1)
      fun c hc => (hword c (List.mem_of_mem_getLast? hc)).2.1
  have hread : Directive.ofText patterns level.word.toList =
      .ok (Directive.ofPlain level.word.toList) := by
    refine Directive.ofText_plain ?_ ?_ ?_ <;> rw [htrim]
    · exact level.word_ne_nil
    · exact fun c hc => (hword c (List.mem_of_mem_head? hc)).1
    · exact fun c hc => ⟨(hword c hc).2.2.2.1, (hword c hc).2.2.2.2⟩
  have hplain : Directive.ofPlain level.word.toList = ⟨none, none, none, .upTo level⟩ := by
    rw [Directive.ofPlain, level.ofText?_word]
  have hcomma : ',' ∉ level.word.toList := fun hc => (hword _ hc).2.2.1 rfl
  rw [← String.ofList_toList (s := level.word), ofText_part hcomma level.word_ne_nil hread, hplain]
  rfl

/-- **A plain level behind the name of a span** is read as the filter whose only directive is about
the spans of that name. -/
theorem ofText_spanWord (patterns : Patterns) {name : String}
    (hname : ∀ c ∈ name.toList, c ≠ ']' ∧ c ≠ '\x7b' ∧ c ≠ ',') (level : Level) :
    ofText patterns ("[" ++ name ++ "]=" ++ level.word) =
      .ok ⟨patterns, [⟨none, some name, none, .upTo level⟩]⟩ := by
  have hword := fun c (hc : c ∈ level.word.toList) => Level.opens_of_mem_word hc
  have htext : ("[" ++ name ++ "]=" ++ level.word).toList =
      [] ++ '[' :: (name.toList ++ ']' :: Directive.levelText (some level.word.toList)) := by
    simp [Directive.levelText]
  have htrim : Directive.trim ("[" ++ name ++ "]=" ++ level.word).toList =
      ("[" ++ name ++ "]=" ++ level.word).toList := by
    refine Directive.trim_eq_self ?_ ?_
    · rw [htext]
      rintro _ ⟨⟩
      decide +kernel
    · rw [String.toList_append, List.getLast?_append_of_ne_nil _ level.word_ne_nil]
      exact fun c hc => (hword c (List.mem_of_mem_getLast? hc)).2.1
  have hread : Directive.ofText patterns ("[" ++ name ++ "]=" ++ level.word).toList =
      .ok ⟨none, some name, none, .upTo level⟩ := by
    rw [htext] at htrim ⊢
    rw [Directive.ofText_span htrim nofun nofun fun c hc => ⟨(hname c hc).1, (hname c hc).2.1⟩,
      Directive.withLevel, Directive.ofLevel, level.ofText?_word]
    simp [level.word_ne_nil, Directive.nameOf?]
  have hcomma : ',' ∉ ("[" ++ name ++ "]=" ++ level.word).toList := by
    have hlevel : ',' ∉ level.word.toList := fun hc => (hword _ hc).2.2.1 rfl
    have hspan : ',' ∉ name.toList := fun hc => (hname _ hc).2.2 rfl
    rw [htext]
    simp [Directive.levelText, hlevel, hspan]
  have hne : ("[" ++ name ++ "]=" ++ level.word).toList ≠ [] := by
    rw [htext]
    exact List.cons_ne_nil _ _
  rw [← ofText_part hcomma hne hread, String.ofList_toList]

end Filter

end Log

end QueryScan
