import QueryScan.Log.Line
import QueryScan.Text.Split

/-!
# Printable lines

A log line quotes texts of queries, and a query may hold anything: line breaks, controls,
marks that hide in the letter before them. None of it gets into the log as it is, because the
quotation marks only ever surround the escapes of a text. So every line consists of
**printable** characters, and a reader who cuts a log at its line breaks gets back the lines
that were written, one for each event in the compact and in the full layout.

## Conventions

A text is printable if a reader sees each of its characters as itself. This is stronger than
having no line break: it also rules out carriage returns, the separators of lines and
paragraphs, and all characters that terminals act on.

## Main results

* `isPrintable_quotedString`, `isPrintable_quotedChar`: what is quoted is printable, whatever
  it is.
* `Log.Layout.isPrintable_of_mem_lines`: the lines of every event are printable.
* `Log.Layout.length_lines`: how many lines an event has.
* `Log.pieces_written`: **cutting a log at its line breaks** gives back its lines.
-/

namespace QueryScan

/-- The text consists of characters that a reader sees as themselves. -/
def isPrintable (s : String) : Bool :=
  s.toList.all fun c => !isUnprintable c

/-- A text is printable if its parts are. -/
@[simp] theorem isPrintable_append (s t : String) :
    isPrintable (s ++ t) = (isPrintable s && isPrintable t) := by
  simp [isPrintable]

/-- A joined text is printable if all its parts are. -/
theorem isPrintable_join (ss : List String) :
    isPrintable (String.join ss) = ss.all isPrintable := by
  rw [isPrintable, String.toList_join, List.all_flatMap]
  rfl

/-- The line break is not printable. -/
theorem isUnprintable_lineBreak : isUnprintable '\n' = true := by
  decide +kernel

/-- A printable text has no line break. -/
theorem lineBreak_notMem_of_isPrintable {s : String} (h : isPrintable s = true) :
    '\n' ∉ s.toList := by
  intro hmem
  have hc := List.all_eq_true.mp h '\n' hmem
  rw [isUnprintable_lineBreak] at hc
  exact absurd hc (by decide)

/-! ### Visible ASCII characters -/

/-- The character is the blank or one of the ASCII characters that leave a mark. -/
def isVisibleAscii (c : Char) : Bool :=
  decide (0x20 ≤ c.toNat) && decide (c.toNat ≤ 0x7E)

/-- The visible ASCII characters are printable. -/
theorem isUnprintable_of_isVisibleAscii {c : Char} (h : isVisibleAscii c = true) :
    isUnprintable c = false := by
  have htable : (List.range 0x7F).all (fun n => decide (n < 0x20) || !unprintables.contains n) =
      true := by
    decide +kernel
  rw [isVisibleAscii, Bool.and_eq_true, decide_eq_true_eq, decide_eq_true_eq] at h
  have hc := List.all_eq_true.mp htable c.toNat (List.mem_range.mpr (by omega))
  rw [Bool.or_eq_true, decide_eq_true_eq] at hc
  rcases hc with hlow | hprintable
  · omega
  · simpa [isUnprintable] using hprintable

/-- A text of visible ASCII characters is printable. -/
theorem isPrintable_of_ascii {s : String}
    (h : s.toList.all isVisibleAscii = true) : isPrintable s = true := by
  rw [isPrintable, List.all_eq_true]
  intro c hc
  rw [isUnprintable_of_isVisibleAscii (List.all_eq_true.mp h c hc)]
  rfl

/-! ### What is quoted -/

/-- A digit is printable, in every base up to sixteen. -/
theorem isUnprintable_digitChar {d : Nat} (hd : d < 16) : isUnprintable d.digitChar = false := by
  have hdigits : ∀ d < 16, isVisibleAscii d.digitChar = true := by decide
  exact isUnprintable_of_isVisibleAscii (hdigits d hd)

/-- The digits of a number are printable, in every base up to sixteen. -/
theorem isUnprintable_of_mem_toDigits {base n : Nat} {c : Char} (hone : 1 < base)
    (hbase : base ≤ 16) (h : c ∈ Nat.toDigits base n) : isUnprintable c = false := by
  induction n using Nat.strongRecOn with
  | ind n ih =>
      rw [Nat.toDigits_eq_if hone] at h
      split at h
      · rw [List.mem_singleton.mp h]
        exact isUnprintable_digitChar (by omega)
      · rcases List.mem_append.mp h with hfront | hlast
        · exact ih (n / base) (Nat.div_lt_self (by omega) hone) hfront
        · have hmod : n % base < base := Nat.mod_lt n (by omega)
          rw [List.mem_singleton.mp hlast]
          exact isUnprintable_digitChar (by omega)

/-- A number is printable. -/
@[simp] theorem isPrintable_toString (n : Nat) : isPrintable (toString n) = true := by
  rw [isPrintable, List.all_eq_true]
  intro c hc
  have hmem : c ∈ Nat.toDigits 10 n := Nat.toList_repr ▸ hc
  rw [isUnprintable_of_mem_toDigits (by decide) (by decide) hmem]
  rfl

/-- The signs that escapes are made of are printable. -/
theorem isUnprintable_of_mem_signs {d : Char}
    (h : d ∈ ['\\', '0', 't', 'r', 'n', 'u', '\x7b', '\x7d']) : isUnprintable d = false := by
  have hsigns : ['\\', '0', 't', 'r', 'n', 'u', '\x7b', '\x7d'].all isVisibleAscii = true := by
    decide
  exact isUnprintable_of_isVisibleAscii (List.all_eq_true.mp hsigns d h)

/-- Whatever a character is shown as is printable. One case for each branch of the escape;
only the last shows the character itself, and then it is printable. -/
theorem isUnprintable_of_mem_escape {quote c d : Char} (hquote : isUnprintable quote = false)
    (h : d ∈ escape quote c) : isUnprintable d = false := by
  rw [escape] at h
  -- NUL, tab, carriage return and line feed are shown by a letter
  iterate 4
    split at h
    case isTrue => exact isUnprintable_of_mem_signs (by grind)
  split at h
  case isTrue hc =>
    rcases hc with rfl | rfl
    · exact isUnprintable_of_mem_signs (by grind)
    · rcases List.mem_cons.mp h with hd | hd
      · exact isUnprintable_of_mem_signs (by grind)
      · rwa [List.mem_singleton.mp hd]
  split at h
  case isTrue =>
    rw [List.mem_append, List.mem_append] at h
    rcases h with (hd | hd) | hd
    · exact isUnprintable_of_mem_signs (by grind)
    · exact isUnprintable_of_mem_toDigits (by decide) (by decide) hd
    · exact isUnprintable_of_mem_signs (by grind)
  case isFalse hc =>
    rw [List.mem_singleton.mp h]
    exact Bool.eq_false_iff.mpr hc

/-- What stands between printable quotation marks is printable, whatever it is. -/
theorem isPrintable_quotedWith {quote : Char} (hquote : isUnprintable quote = false)
    (cs : List Char) : isPrintable (String.ofList (quotedWith quote cs)) = true := by
  rw [isPrintable, String.toList_ofList, quotedWith, List.all_eq_true]
  intro d hd
  have hprintable : isUnprintable d = false := by
    simp only [List.cons_append, List.mem_cons, List.mem_append, List.mem_flatMap,
      List.not_mem_nil, or_false] at hd
    rcases hd with rfl | ⟨c, -, hc⟩ | rfl
    · exact hquote
    · exact isUnprintable_of_mem_escape hquote hc
    · exact hquote
  rw [hprintable]
  rfl

/-- **A quoted text is printable.** -/
@[simp] theorem isPrintable_quotedString (s : String) : isPrintable (quotedString s) = true :=
  isPrintable_quotedWith (isUnprintable_of_isVisibleAscii (by decide)) s.toList

/-- **A quoted character is printable.** -/
@[simp] theorem isPrintable_quotedChar (c : Char) : isPrintable (quotedChar c) = true :=
  isPrintable_quotedWith (isUnprintable_of_isVisibleAscii (by decide)) [c]

namespace Log

/-! ### The lines of an event -/

/-- The name of a level is printable. -/
@[simp] theorem Level.isPrintable_name (level : Level) : isPrintable level.name = true := by
  cases level <;> exact isPrintable_of_ascii (by decide)

/-- The label of a kind is printable. -/
@[simp] theorem isPrintable_label (kind : Kind) : isPrintable kind.label = true := by
  cases kind <;> exact isPrintable_of_ascii (by decide)

/-- The target of an event is printable. -/
theorem Event.isPrintable_target (e : Event) : isPrintable e.target = true := by
  cases e with
  | token t => exact isPrintable_of_ascii (s := scannerTarget) (by decide)
  | rejected r => exact isPrintable_of_ascii (s := scannerTarget) (by decide)
  | tokenized count => exact isPrintable_of_ascii (s := queryTarget) (by decide)

/-- The message of an event is printable. -/
theorem Event.isPrintable_message (e : Event) : isPrintable e.message = true := by
  cases e with
  | token t => exact isPrintable_of_ascii (s := "token") (by decide)
  | rejected r => exact isPrintable_of_ascii (s := "unexpected character") (by decide)
  | tokenized count => exact isPrintable_of_ascii (s := "tokenized query") (by decide)

/-- The fields of an event are printable, the names as well as the values. A word is shown as
it is, but no word comes from a query. -/
theorem Event.isPrintable_of_mem_fields {e : Event} {name : String} {value : FieldValue}
    (h : (name, value) ∈ e.fields) :
    isPrintable name = true ∧ isPrintable value.render = true := by
  cases e with
  | token t =>
      simp only [Event.fields, List.mem_cons, List.not_mem_nil, or_false, Prod.mk.injEq] at h
      rcases h with ⟨rfl, rfl⟩ | ⟨rfl, rfl⟩
      · exact ⟨isPrintable_of_ascii (by decide), isPrintable_label t.kind⟩
      · exact ⟨isPrintable_of_ascii (by decide), isPrintable_quotedString t.text⟩
  | rejected r =>
      simp only [Event.fields, List.mem_cons, List.not_mem_nil, or_false, Prod.mk.injEq] at h
      rcases h with ⟨rfl, rfl⟩ | ⟨rfl, rfl⟩
      · exact ⟨isPrintable_of_ascii (by decide), isPrintable_quotedChar r.character⟩
      · exact ⟨isPrintable_of_ascii (by decide), isPrintable_toString r.position⟩
  | tokenized count =>
      simp only [Event.fields, List.mem_cons, List.not_mem_nil, or_false, Prod.mk.injEq] at h
      obtain ⟨rfl, rfl⟩ := h
      exact ⟨isPrintable_of_ascii (by decide), isPrintable_toString count⟩

namespace Layout

/-- The fields of an event are written in printable characters, if the marks are printable. -/
theorem isPrintable_fieldText {before between : String} (hbefore : isPrintable before = true)
    (hbetween : isPrintable between = true) (e : Event) :
    isPrintable (fieldText before between e) = true := by
  rw [fieldText, isPrintable_join, List.all_eq_true]
  intro text htext
  obtain ⟨⟨name, value⟩, hmem, rfl⟩ := List.mem_map.mp htext
  obtain ⟨hname, hvalue⟩ := Event.isPrintable_of_mem_fields hmem
  simp [hbefore, hbetween, hname, hvalue]

/-- The marks between the parts of a line are printable. -/
theorem isPrintable_marks :
    isPrintable timeMark = true ∧ isPrintable " " = true ∧ isPrintable ": " = true :=
  ⟨isPrintable_of_ascii (by decide), isPrintable_of_ascii (by decide),
    isPrintable_of_ascii (by decide)⟩

/-- The line that the compact and the full layout have in common is printable. -/
theorem isPrintable_line {span : String} (hspan : isPrintable span = true) (e : Event) :
    isPrintable (line span e) = true := by
  obtain ⟨htime, hblank, hcolon⟩ := isPrintable_marks
  have hequals : isPrintable "=" = true := isPrintable_of_ascii (by decide)
  have hfields := isPrintable_fieldText hblank hequals e
  simp only [line, isPrintable_append, htime, hblank, hcolon, hspan, Level.isPrintable_name,
    e.isPrintable_target, e.isPrintable_message, hfields, Bool.and_self]

/-- The first line of a block is printable. -/
theorem isPrintable_heading (e : Event) :
    isPrintable ("  " ++ timeMark ++ " " ++ e.level.name ++ " " ++ e.target ++ ": " ++
      e.message ++ fieldText ", " ": " e) = true := by
  obtain ⟨htime, hblank, hcolon⟩ := isPrintable_marks
  have hindent : isPrintable "  " = true := isPrintable_of_ascii (by decide)
  have hcomma : isPrintable ", " = true := isPrintable_of_ascii (by decide)
  have hfields := isPrintable_fieldText hcomma hcolon e
  simp only [isPrintable_append, hindent, htime, hblank, hcolon, Level.isPrintable_name,
    e.isPrintable_target, e.isPrintable_message, hfields, Bool.and_self]

/-- What is shown of a span beside its name is printable, and so is what is shown of it behind
a line or in a line of its own. -/
theorem isPrintable_span (bytes : Nat) :
    isPrintable (Record.spanName ++ ": ") = true ∧
    isPrintable (" len=" ++ toString bytes) = true ∧
    isPrintable (Record.spanName ++ "\x7blen=" ++ toString bytes ++ "\x7d: ") = true ∧
    isPrintable ("    in " ++ queryTarget ++ "::" ++ Record.spanName ++ " with len: " ++
      toString bytes) = true := by
  have hname : isPrintable (Record.spanName ++ ": ") = true := isPrintable_of_ascii (by decide)
  have hlen : isPrintable " len=" = true := isPrintable_of_ascii (by decide)
  have hopen : isPrintable (Record.spanName ++ "\x7blen=") = true :=
    isPrintable_of_ascii (by decide)
  have hclose : isPrintable "\x7d: " = true := isPrintable_of_ascii (by decide)
  have hwithin : isPrintable ("    in " ++ queryTarget ++ "::" ++ Record.spanName ++
      " with len: ") = true :=
    isPrintable_of_ascii (by decide)
  refine ⟨hname, ?_, ?_, ?_⟩
  · rw [isPrintable_append, hlen, isPrintable_toString]
    rfl
  · rw [isPrintable_append, isPrintable_append, hopen, isPrintable_toString, hclose]
    rfl
  · rw [isPrintable_append, hwithin, isPrintable_toString]
    rfl

/-- **The lines of an event are printable**, whatever text it reports. -/
theorem isPrintable_of_mem_lines {layout : Layout} {span : Option Nat} {e : Event}
    {text : String} (h : text ∈ layout.lines span e) : isPrintable text = true := by
  have hempty : isPrintable "" = true := isPrintable_of_ascii (by decide)
  have hplace : isPrintable ("    at " ++ placeMark) = true := isPrintable_of_ascii (by decide)
  cases layout with
  | compact =>
      cases span with
      | none =>
          rw [List.mem_singleton.mp h]
          exact isPrintable_line hempty e
      | some bytes =>
          obtain ⟨hname, hlen, -, -⟩ := isPrintable_span bytes
          rw [List.mem_singleton.mp h, String.append_assoc, isPrintable_append,
            isPrintable_line hname, hlen]
          rfl
  | full =>
      cases span with
      | none =>
          rw [List.mem_singleton.mp h]
          exact isPrintable_line hempty e
      | some bytes =>
          obtain ⟨-, -, hspan, -⟩ := isPrintable_span bytes
          rw [List.mem_singleton.mp h]
          exact isPrintable_line hspan e
  | pretty =>
      simp only [lines, List.cons_append, List.mem_cons, List.mem_append, List.mem_map,
        Option.mem_toList, List.not_mem_nil, or_false] at h
      rcases h with rfl | rfl | ⟨bytes, -, rfl⟩ | rfl
      · exact isPrintable_heading e
      · exact hplace
      · exact (isPrintable_span bytes).2.2.2
      · exact hempty

/-- How many lines an event has: one, or in the pretty layout a block that is closed by an
empty line and has a line more within a span. -/
def height : Layout → Option Nat → Nat
  | compact, _ => 1
  | full, _ => 1
  | pretty, none => 3
  | pretty, some _ => 4

/-- **The number of lines** depends on the layout and the span alone. -/
theorem length_lines (layout : Layout) (span : Option Nat) (e : Event) :
    (layout.lines span e).length = layout.height span := by
  cases layout <;> cases span <;> rfl

end Layout

/-! ### What has been written -/

/-- What some lines are in a file: each is followed by a line break. -/
def written (lines : List String) : List Char :=
  lines.flatMap fun line => line.toList ++ ['\n']

/-- A text without a line break, followed by one, is a piece of its own. -/
theorem pieces_cons_line {line : List Char} (h : '\n' ∉ line) (cs : List Char) :
    pieces '\n' (line ++ '\n' :: cs) = line :: pieces '\n' cs := by
  rw [pieces_append_cons, pieces_of_notMem h]
  rfl

/-- **Cutting a log at its line breaks** gives back the lines that were written, and nothing
behind the last one. -/
theorem pieces_written {lines : List String}
    (h : ∀ line ∈ lines, isPrintable line = true) :
    pieces '\n' (written lines) = lines.map String.toList ++ [[]] := by
  induction lines with
  | nil => rfl
  | cons line lines ih =>
      have hline := lineBreak_notMem_of_isPrintable (h line List.mem_cons_self)
      have hrest := ih fun line hmem => h line (List.mem_cons_of_mem _ hmem)
      rw [written, List.flatMap_cons, List.append_assoc, List.singleton_append,
        pieces_cons_line hline, ← written, hrest]
      rfl

end Log

end QueryScan
