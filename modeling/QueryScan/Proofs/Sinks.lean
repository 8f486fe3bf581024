import QueryScan.Proofs.LogEntries

/-!
# Sinks

Log lines go to standard output, to a file or to both, in one of two formats. Each way is set
up by itself, with **writers** of its own, and a **subscriber** hands on to them every event
that the filter lets through, at the moment at which it arises. A `Session` knows nothing of
that: it tells the lines from the list of all records, in one go.

This module shows that the lines are the same. What all writers have in common are the entries
of the log; a layout turns them into lines.

## Conventions

A subscriber shows a span only while the span is entered. It tells a span that has been made
from one that has been entered, and forgets either when the span is left. Between two actions
it is outside of all spans, which is what its run over many actions rests on.

## Main results

* `Log.Session.live_writers`: **what the writers write** while the actions run are the entries,
  each writer in its layout.
* `Log.Filter.inForce_iff`: which filter is in force.
* `Log.Session.sinksAgree_of_run`: **the sinks agree** with each other and with the trace.
-/

namespace QueryScan

namespace Log

/-! ### Writers and subscribers -/

/-- Where lines go. -/
inductive Sink where
  /-- Standard output. -/
  | stdout
  /-- The log file. -/
  | file
  deriving DecidableEq, Repr

/-- A **writer**. -/
structure Writer where
  /-- Where its lines go. -/
  sink : Sink
  /-- How they look. -/
  layout : Layout
  /-- The lines written so far. -/
  lines : List String
  deriving DecidableEq, Repr

/-- The writer after one more entry. -/
def Writer.write (w : Writer) (entry : Entry) : Writer :=
  { w with lines := w.lines ++ entry.lines w.layout }

/-- The writer after some more entries, one after the other. -/
def Writer.writeAll (w : Writer) (entries : List Entry) : Writer :=
  entries.foldl write w

/-- A writer adds the lines of the entries to those that it has written. -/
theorem Writer.writeAll_eq (w : Writer) (entries : List Entry) :
    w.writeAll entries = { w with lines := w.lines ++ entries.flatMap (Entry.lines w.layout) } := by
  induction entries generalizing w with
  | nil => simp [writeAll]
  | cons entry entries ih =>
      rw [writeAll, List.foldl_cons, ← writeAll, ih, write, List.flatMap_cons, List.append_assoc]

/-- The writers that a configuration sets up, each way on its own. -/
def Config.writers (c : Config) : List Writer :=
  match c.output, c.format with
  | .stdout, .pretty => [⟨.stdout, .pretty, []⟩]
  | .stdout, .compact => [⟨.stdout, .compact, []⟩]
  | .file _, .pretty => [⟨.file, .pretty, []⟩]
  | .file _, .compact => [⟨.file, .compact, []⟩]
  | .both _, _ => [⟨.stdout, .full, []⟩, ⟨.file, .full, []⟩]

/-- No writer has written anything when it is set up. -/
theorem Config.lines_of_mem_writers {c : Config} {w : Writer} (h : w ∈ c.writers) :
    w.lines = [] := by
  rw [writers] at h
  split at h
  case h_5 =>
    rcases List.mem_cons.mp h with rfl | h
    · rfl
    · rw [List.mem_singleton.mp h]
  all_goals rw [List.mem_singleton.mp h]

/-- The pretty layout is for one sink in the pretty format. -/
theorem Config.layout_ne_pretty {c : Config} {w : Writer} (h : w ∈ c.writers)
    (hc : c.format = .compact ∨ ∃ path, c.output = .both path) : w.layout ≠ .pretty := by
  rw [writers] at h
  split at h
  case h_1 houtput hformat => simp [houtput, hformat] at hc
  case h_3 houtput hformat => simp [houtput, hformat] at hc
  case h_5 =>
    rcases List.mem_cons.mp h with rfl | h
    · simp
    · rw [List.mem_singleton.mp h]
      simp
  all_goals
    rw [List.mem_singleton.mp h]
    simp

/-- How a subscriber stands to the span around a query. -/
inductive Standing where
  /-- There is no span. -/
  | outside
  /-- A span with so many bytes has been made. -/
  | before (bytes : Nat)
  /-- A span with so many bytes has been entered. -/
  | within (bytes : Nat)
  deriving DecidableEq, Repr

namespace Standing

/-- A span can be entered after it has been made. -/
def enter : Standing → Standing
  | outside => outside
  | before bytes => within bytes
  | within bytes => within bytes

/-- The span that is shown with an event: one that has been entered. -/
def span? : Standing → Option Nat
  | outside => none
  | before _ => none
  | within bytes => some bytes

end Standing

/-- A **subscriber**: it sees each record when it arises, and hands events on to its
writers. -/
structure Subscriber where
  /-- Which records it does not pass over. -/
  filter : Filter
  /-- How it stands to the span around a query. -/
  standing : Standing
  /-- Its writers. -/
  writers : List Writer

namespace Subscriber

/-- The subscriber after all its writers have written some entries. -/
def writeAll (u : Subscriber) (entries : List Entry) : Subscriber :=
  { u with writers := u.writers.map fun w => w.writeAll entries }

/-- The subscriber after one record. -/
def observe (u : Subscriber) (r : Record) : Subscriber :=
  if u.filter.passes u.standing.span? r then
    match r with
    | .span bytes => { u with standing := .before bytes }
    | .enter => { u with standing := u.standing.enter }
    | .exit => { u with standing := .outside }
    | .event e => u.writeAll [⟨u.standing.span?, e⟩]
  else u

/-- The subscriber after some records, one after the other. -/
def observeAll (u : Subscriber) (rs : List Record) : Subscriber :=
  rs.foldl observe u

/-- The lines that have gone to a sink, of one writer after the other. -/
def linesTo (u : Subscriber) (sink : Sink) : List String :=
  (u.writers.filter fun w => w.sink = sink).flatMap Writer.lines

/-- No entries change nothing. -/
@[simp] theorem writeAll_nil (u : Subscriber) : u.writeAll [] = u := by
  simp [writeAll, Writer.writeAll]

/-- Entries are written one after the other. -/
theorem writeAll_append (u : Subscriber) (entries entries' : List Entry) :
    u.writeAll (entries ++ entries') = (u.writeAll entries).writeAll entries' := by
  simp [writeAll, Writer.writeAll]

/-- The first entry is written first. -/
theorem writeAll_cons (u : Subscriber) (entry : Entry) (entries : List Entry) :
    u.writeAll (entry :: entries) = (u.writeAll [entry]).writeAll entries :=
  u.writeAll_append [entry] entries

/-- No records change nothing. -/
@[simp] theorem observeAll_nil (u : Subscriber) : u.observeAll [] = u := rfl

/-- The first record is observed first. -/
theorem observeAll_cons (u : Subscriber) (r : Record) (rs : List Record) :
    u.observeAll (r :: rs) = (u.observe r).observeAll rs := rfl

/-- Records are observed one after the other. -/
theorem observeAll_append (u : Subscriber) (rs rs' : List Record) :
    u.observeAll (rs ++ rs') = (u.observeAll rs).observeAll rs' :=
  List.foldl_append

/-- An event that the filter lets through is written by every writer. -/
theorem observe_event {u : Subscriber} {e : Event}
    (h : u.filter.passes u.standing.span? (.event e) = true) :
    u.observe (.event e) = u.writeAll [⟨u.standing.span?, e⟩] :=
  if_pos h

/-- If the filter shows spans, making and entering one puts the subscriber within it. -/
theorem observe_enter {u : Subscriber} (h : u.filter.showsSpan = true) (bytes : Nat) :
    (u.observe (.span bytes)).observe .enter = { u with standing := .within bytes } := by
  have hspan : u.observe (.span bytes) = { u with standing := .before bytes } := if_pos h
  rw [hspan]
  exact if_pos h

/-- If the filter shows spans, leaving one puts the subscriber outside. -/
theorem observe_exit {u : Subscriber} (h : u.filter.showsSpan = true) :
    u.observe .exit = { u with standing := .outside } :=
  if_pos h

/-- What has been written within a span stays when the span is left. -/
theorem observe_exit_writeAll {u : Subscriber} (hshows : u.filter.showsSpan = true)
    (h : u.standing = .outside) (bytes : Nat) (entries : List Entry) :
    (writeAll { u with standing := .within bytes } entries).observe .exit =
      u.writeAll entries := by
  have hexit := observe_exit (u := writeAll { u with standing := .within bytes } entries) hshows
  rw [hexit, writeAll, writeAll, h]

/-- If the filter shows no span, the subscriber passes over all that is about one. -/
theorem observe_of_not_showsSpan {u : Subscriber} (h : ¬u.filter.showsSpan = true)
    (bytes : Nat) :
    u.observe (.span bytes) = u ∧ u.observe .enter = u ∧ u.observe .exit = u :=
  ⟨if_neg h, if_neg h, if_neg h⟩

/-- Of events in a row, those that the filter lets through are written by every writer, in the
span that has been entered. -/
theorem observeAll_events (u : Subscriber) (es : List Event) :
    u.observeAll (es.map .event) =
      u.writeAll ((es.filter fun e => u.filter.passes u.standing.span? (.event e)).map
        fun e => ⟨u.standing.span?, e⟩) := by
  induction es generalizing u with
  | nil => simp
  | cons e es ih =>
      rw [List.map_cons, observeAll_cons, ih, List.filter_cons]
      by_cases he : u.filter.passes u.standing.span? (.event e) = true
      · rw [observe_event he, if_pos he]
        exact (u.writeAll_cons _ _).symm
      · have hover : u.observe (.event e) = u := if_neg he
        rw [hover, if_neg he]

/-- **One action**: outside of all spans, every writer writes the entries of the action, and the
subscriber is outside of all spans again. -/
theorem observeAll_action {u : Subscriber} (h : u.standing = .outside) (a : Action) :
    u.observeAll a.records = u.writeAll (a.entries u.filter) := by
  rw [Action.records_eq, Action.entries, Action.shownEvents, Action.shownSpan?]
  cases a.span? with
  | none =>
      rw [ite_self]
      change u.observeAll (a.events.map .event) = _
      rw [observeAll_events, h]
      rfl
  | some bytes =>
      simp only [List.cons_append, observeAll_cons, observeAll_append, observeAll_nil]
      by_cases hshows : u.filter.showsSpan = true
      · rw [observe_enter hshows, observeAll_events, if_pos hshows]
        exact observe_exit_writeAll hshows h bytes _
      · obtain ⟨hspan, henter, -⟩ := observe_of_not_showsSpan hshows bytes
        have hexit : ∀ entries, (u.writeAll entries).observe .exit = u.writeAll entries :=
          fun _ => if_neg hshows
        rw [hspan, henter, observeAll_events, if_neg hshows, h]
        exact hexit _

/-- **Some actions**: every writer writes the entries of each, in order. -/
theorem observeAll_actions {u : Subscriber} (h : u.standing = .outside) (as : List Action) :
    u.observeAll (records as) = u.writeAll (as.flatMap (Action.entries u.filter)) := by
  induction as generalizing u with
  | nil => simp [records]
  | cons a as ih =>
      have hrecords : records (a :: as) = a.records ++ records as := List.flatMap_cons
      have houtside : (u.writeAll (a.entries u.filter)).standing = .outside := h
      rw [hrecords, observeAll_append, observeAll_action h, ih houtside, List.flatMap_cons,
        writeAll_append]
      rfl

end Subscriber

/-! ### Sessions as they run -/

namespace Session

/-- The subscriber that is set up for a session with a filter. -/
def subscriber (s : Session) (f : Filter) : Subscriber :=
  ⟨f, .outside, s.config.writers⟩

/-- The subscriber after it has seen all records of the session. -/
def live (s : Session) (f : Filter) : Subscriber :=
  (s.subscriber f).observeAll (records s.actions)

variable {s : Session} {f : Filter}

/-- **What the writers write** while the actions run are the entries of the session. -/
theorem live_writers (s : Session) (f : Filter) :
    (s.live f).writers = s.config.writers.map fun w => w.writeAll (s.entries f) := by
  rw [live, Subscriber.observeAll_actions rfl]
  rfl

/-- What goes to standard output while the actions run is what is reported of it. -/
theorem linesTo_stdout (s : Session) (f : Filter) :
    (s.live f).linesTo .stdout = s.stdout f := by
  rw [Subscriber.linesTo, live_writers, Config.writers, stdout]
  cases s.config.output <;> cases s.config.format <;>
    simp [Writer.writeAll_eq, lines_eq, Format.layout]

/-- What goes to the log file while the actions run is what the file holds afterwards. -/
theorem linesTo_file (s : Session) (f : Filter) :
    (s.live f).linesTo .file = s.fileLines f := by
  rw [Subscriber.linesTo, live_writers, Config.writers, fileLines]
  cases s.config.output <;> cases s.config.format <;>
    simp [Writer.writeAll_eq, lines_eq, Format.layout]

/-- A writer has written the lines of the entries in its layout. -/
theorem lines_of_mem_live {w : Writer} (h : w ∈ (s.live f).writers) :
    w.lines = (s.entries f).flatMap (Entry.lines w.layout) := by
  rw [live_writers] at h
  obtain ⟨w, hw, rfl⟩ := List.mem_map.mp h
  simp [Writer.writeAll_eq, Config.lines_of_mem_writers hw]

end Session

/-! ### The filter in force -/

namespace Filter

variable {patterns : Patterns} {environment : Option String} {configured : String} {f : Filter}

/-- The text is missing, or it is no filter. -/
def Unread (patterns : Patterns) (text? : Option String) : Prop :=
  ∀ text, text? = some text → ofText patterns text = .error .malformed

/-- The texts of the environment and of the configuration put a filter **in force**. -/
inductive InForce (patterns : Patterns) (environment : Option String) (configured : String) :
    Filter → Prop
  /-- The environment comes first. -/
  | environment {text : String} {f : Filter} :
      environment = some text → ofText patterns text = .ok f →
        InForce patterns environment configured f
  /-- The configuration comes second. -/
  | configured {f : Filter} :
      Unread patterns environment → ofText patterns configured = .ok f →
        InForce patterns environment configured f
  /-- Informational events and more severe ones are logged if neither can be read. -/
  | info {f : Filter} :
      Unread patterns environment → Unread patterns (some configured) →
        ofText patterns "info" = .ok f → InForce patterns environment configured f

/-- A filter that is read from the environment is in force. -/
theorem effective_of_environment {text : String} (h : ofText patterns text = .ok f)
    (configured : String) : effective patterns (some text) configured = .ok f := by
  rw [effective, Option.map_some, h]

/-- Under an environment that is not read, the configuration decides. -/
theorem effective_of_unread (h : Unread patterns environment) (configured : String) :
    effective patterns environment configured = effective patterns none configured := by
  cases environment with
  | none => rfl
  | some text =>
      have htext := h text rfl
      rw [effective, effective, Option.map_some, htext]
      rfl

/-- A filter that is read from the configuration is in force without an environment. -/
theorem effective_of_configured (h : ofText patterns configured = .ok f) :
    effective patterns none configured = .ok f := by
  simp only [effective, Option.map_none, h]

/-- Informational events and more severe ones are logged if there is nothing else. -/
theorem effective_of_neither (h : ofText patterns configured = .error .malformed) :
    effective patterns none configured = .ok (ofThreshold patterns (.upTo .info)) := by
  simp only [effective, Option.map_none, h]

end Filter

/-- Under an environment that is not read, what comes of the configuration is in force. -/
theorem Filter.inForce_of_unread {patterns : Patterns} {environment : Option String}
    {configured : String} {f : Filter} (hunread : Unread patterns environment)
    (h : effective patterns none configured = .ok f) :
    InForce patterns environment configured f := by
  match hread : ofText patterns configured with
  | .ok g =>
      obtain rfl := Except.ok.inj ((effective_of_configured hread).symm.trans h)
      exact .configured hunread hread
  | .error .malformed =>
      obtain rfl := Except.ok.inj ((effective_of_neither hread).symm.trans h)
      refine .info hunread ?_ (ofText_word patterns .info)
      rintro _ ⟨⟩
      exact hread
  | .error (.split index) =>
      simp only [effective, Option.map_none, hread] at h
      exact absurd h nofun

/-- **The filter in force** is the one that the two texts put in force, and no other. -/
theorem Filter.inForce_iff {patterns : Patterns} {environment : Option String}
    {configured : String} {f : Filter} :
    InForce patterns environment configured f ↔
      effective patterns environment configured = .ok f := by
  constructor
  · intro h
    cases h with
    | environment henv hf => rw [henv, effective_of_environment hf]
    | configured henv hf => rw [effective_of_unread henv, effective_of_configured hf]
    | info henv hconf hf =>
        have hinfo := Except.ok.inj ((ofText_word patterns .info).symm.trans hf)
        rw [effective_of_unread henv, effective_of_neither (hconf _ rfl), hinfo]
  · intro h
    cases henv : environment with
    | none => exact inForce_of_unread nofun (henv ▸ h)
    | some text =>
        rw [henv] at h
        match hread : ofText patterns text with
        | .ok g =>
            obtain rfl := Except.ok.inj ((effective_of_environment hread configured).symm.trans h)
            exact .environment rfl hread
        | .error .malformed =>
            have hunread : Unread patterns (some text) := by
              rintro _ ⟨⟩
              exact hread
            exact inForce_of_unread hunread (effective_of_unread hunread configured ▸ h)
        | .error (.split index) =>
            rw [effective, Option.map_some, hread] at h
            exact absurd h nofun

/-! ### Settings that change nothing -/

namespace Session

/-- The session with other texts for the filter. -/
def refiltered (s : Session) (level : String) (environment : Option String) : Session :=
  { s with config := s.config.set (.level level), environment := environment }

/-- The session in another format. -/
def reformatted (s : Session) (format : Format) : Session :=
  { s with config := s.config.set (.format format) }

/-- The session with its lines on standard output alone. -/
def toStdout (s : Session) : Session :=
  { s with config := { s.config with output := .stdout } }

/-- Two sessions run alike with a filter if they have the same output and the same files before
the start, and show the same lines. -/
theorem runWith_congr {s t : Session} {f : Filter} (houtput : s.config.output = t.config.output)
    (hexisting : s.existing = t.existing) (hstdout : s.stdout f = t.stdout f)
    (hfile : s.fileLines f = t.fileLines f) : s.runWith f = t.runWith f := by
  have hstart : s.canStart = t.canStart := by
    simp only [canStart, existingPlaces, houtput, hexisting]
  have hfiles : s.files f = t.files f := by
    simp only [files, logFile?, logPath?, existingPlaces, houtput, hexisting, hfile]
  rw [runWith, runWith, hstart, houtput, hstdout, hfiles]

/-- With a filter in force a session runs with that filter. -/
theorem run_of_effective {s : Session} {patterns : Patterns} {f : Filter}
    (h : Filter.effective patterns s.environment s.config.level = .ok f) :
    s.run patterns = s.runWith f := by
  rw [run, h]

/-- The texts for the filter matter only for the filter that they put in force. -/
theorem run_refiltered {patterns : Patterns} {level : String} {environment : Option String}
    {f : Filter} (h : Filter.effective patterns environment level = .ok f) (s : Session) :
    (s.refiltered level environment).run patterns = s.runWith f := by
  have hf : Filter.effective patterns (s.refiltered level environment).environment
      (s.refiltered level environment).config.level = .ok f := h
  rw [run_of_effective hf]
  exact runWith_congr rfl rfl rfl rfl

/-- With two sinks the format does not matter. -/
theorem runWith_reformatted {s : Session} {path : String} (h : s.config.output = .both path)
    (format : Format) (f : Filter) : (s.reformatted format).runWith f = s.runWith f := by
  have houtput : (s.reformatted format).config.output = .both path := h
  refine runWith_congr rfl rfl ?_ ?_
  · rw [stdout, stdout, houtput, h]
    rfl
  · rw [fileLines, fileLines, houtput, h]
    rfl

/-- A session that can start with a filter reports its lines and the files, and no other session
reports. -/
theorem runWith_eq_ok_iff {s : Session} {f : Filter} {r : Report} :
    s.runWith f = .ok r ↔
      s.canStart = true ∧ r = ⟨s.config.output.path?.isSome, s.stdout f, s.files f⟩ := by
  rw [runWith]
  split
  · rename_i hstart
    rw [Except.ok.injEq, and_iff_right hstart]
    exact eq_comm
  · rename_i hstart
    simp [hstart]

/-- A session that reports does so with the filter in force. -/
theorem run_eq_ok_iff {s : Session} {patterns : Patterns} {r : Report} :
    s.run patterns = .ok r ↔
      ∃ f, Filter.effective patterns s.environment s.config.level = .ok f ∧
        s.runWith f = .ok r := by
  rw [run]
  cases Filter.effective patterns s.environment s.config.level with
  | error index => simp
  | ok f => simp

/-- The log file is listed, with its lines, if it lies below the working directory. -/
theorem mem_files_of_logFile? {s : Session} {f : Filter} {file : String × List String}
    (h : s.logFile? f = some file) : file ∈ s.files f ∧ file.2 = s.fileLines f := by
  refine ⟨?_, ?_⟩
  · rw [files, List.mem_mergeSort, List.mem_append, h]
    exact Or.inr (List.mem_singleton.mpr rfl)
  · rw [logFile?] at h
    obtain ⟨path, -, h⟩ := Option.bind_eq_some_iff.mp h
    obtain ⟨place, -, h⟩ := Option.bind_eq_some_iff.mp h
    rw [← Option.some.inj h]

/-! ### Agreement -/

/-- In the compact format, and with two sinks in either format, there is a line for each
entry. -/
theorem length_lines_of_mem_live {s : Session} {f : Filter} {w : Writer}
    (h : w ∈ (s.live f).writers)
    (hs : s.config.format = .compact ∨ ∃ path, s.config.output = .both path) :
    w.lines.length = (s.entries f).length := by
  have hlayout : w.layout ≠ .pretty := by
    rw [live_writers] at h
    obtain ⟨w, hw, rfl⟩ := List.mem_map.mp h
    have hne := Config.layout_ne_pretty hw hs
    rwa [Writer.writeAll_eq]
  have hone : ∀ entry : Entry, (entry.lines w.layout).length = 1 := by
    intro entry
    rw [Entry.length_lines]
    cases hw : w.layout with
    | compact => rfl
    | full => rfl
    | pretty => exact absurd hw hlayout
  rw [lines_of_mem_live h, List.length_flatMap, List.map_congr_left fun entry _ => hone entry,
    List.map_const', List.sum_replicate_nat, Nat.mul_one]

/-- Whatever is written is printable. -/
theorem isPrintable_of_mem_live {s : Session} {f : Filter} {w : Writer}
    (h : w ∈ (s.live f).writers) {line : String} (hline : line ∈ w.lines) :
    isPrintable line = true := by
  rw [lines_of_mem_live h] at hline
  obtain ⟨entry, -, hentry⟩ := List.mem_flatMap.mp hline
  exact Layout.isPrintable_of_mem_lines hentry

/-- **Agreement** of a session that starts with its report, under a filter: of the sinks with each
other, and of what goes to them with the trace of the actions. -/
structure SinksAgree (patterns : Patterns) (s : Session) (f : Filter) (r : Report) : Prop where
  /-- The filter is the one that the environment and the configuration put in force. -/
  inForce_iff : ∀ g, Filter.InForce patterns s.environment s.config.level g ↔ g = f
  /-- Standard output holds what was written to it while the actions ran. -/
  stdout_live : r.stdout = (s.live f).linesTo .stdout
  /-- The log file holds what was written to it while the actions ran. -/
  file_live : s.fileLines f = (s.live f).linesTo .file
  /-- The log file is listed with its lines, if it lies below the working directory. -/
  file_listed : ∀ file, s.logFile? f = some file → file ∈ r.files ∧ file.2 = s.fileLines f
  /-- There is a guard exactly if lines go to a file. -/
  guarded_iff : r.guarded = true ↔
    ∃ path, s.config.output = .file path ∨ s.config.output = .both path
  /-- Other texts that put this filter in force lead to the same report. -/
  same_filter : ∀ level environment, Filter.InForce patterns environment level f →
    (s.refiltered level environment).run patterns = .ok r
  /-- A filter that is configured, under an environment that is missing or cannot be read, logs
  what it logs from the environment, whatever is configured then. -/
  override : ∀ text g, Filter.ofText patterns text = .ok g →
    ∀ environment, Filter.Unread patterns environment → ∀ level,
      ∃ r', (s.refiltered text environment).run patterns = .ok r' ∧
        (s.refiltered level (some text)).run patterns = .ok r'
  /-- With two sinks the lines are the same in both, in either format. -/
  both_same : ∀ path, s.config.output = .both path →
    r.stdout = s.fileLines f ∧ ∀ format, (s.reformatted format).run patterns = .ok r
  /-- A file alone holds what standard output alone would show in the same format, and standard
  output stays empty. -/
  file_alone : ∀ path, s.config.output = .file path →
    r.stdout = [] ∧ ∃ r', s.toStdout.run patterns = .ok r' ∧ s.fileLines f = r'.stdout
  /-- Every writer writes the entries, in order. -/
  entries_written : ∀ w ∈ (s.live f).writers,
    w.lines = (s.entries f).flatMap (Entry.lines w.layout)
  /-- The entries hold the events that are logged, in order. -/
  entries_logged : (s.entries f).map Entry.event = (s.logged f).filterMap Record.event?
  /-- At a plain level the trace is logged: each event that the level keeps, with its fields and
  within the span of its action. -/
  plain : ∀ level : Level, Filter.ofText patterns level.word = .ok f →
    s.logged f = trace level s.actions ∧
      s.entries f = s.actions.flatMap fun a =>
        (a.events.filter fun e => level.keeps (.event e)).map fun e => ⟨a.span?, e⟩
  /-- A level behind the name of the span logs of the tokenizations of queries what the level logs,
  and nothing of other actions. -/
  spanned : ∀ level : Level, Filter.ofText patterns ("[tokenize]=" ++ level.word) = .ok f →
    s.entries f = s.actions.flatMap fun a =>
      if a.span?.isSome then
        (a.events.filter fun e => level.keeps (.event e)).map fun e => ⟨a.span?, e⟩
      else []
  /-- In the compact format, and with two sinks in either format, an entry is one line. -/
  one_line : s.config.format = .compact ∨ (∃ path, s.config.output = .both path) →
    ∀ w ∈ (s.live f).writers, w.lines.length = (s.entries f).length
  /-- In every layout an entry has as many lines as the layout is high. -/
  height : ∀ w ∈ (s.live f).writers, ∀ entry ∈ s.entries f,
    (entry.lines w.layout).length = w.layout.height entry.span
  /-- Every line is printable, whatever the texts of the actions hold. -/
  printable : ∀ w ∈ (s.live f).writers, ∀ line ∈ w.lines, isPrintable line = true
  /-- Cutting what has been written at the line breaks gives back the lines. -/
  cut : ∀ w ∈ (s.live f).writers,
    pieces '\n' (written w.lines) = w.lines.map String.toList ++ [[]]

/-- **The sinks of every session that starts agree**: under some filter, which is the one in force,
the five ways in which writers are set up, with three sources for the filter, render one stream
of events. -/
theorem sinksAgree_of_run {patterns : Patterns} {s : Session} {r : Report}
    (h : s.run patterns = .ok r) : ∃ f, s.SinksAgree patterns f r := by
  obtain ⟨f, hforce, hrun⟩ := run_eq_ok_iff.mp h
  obtain ⟨hstart, rfl⟩ := runWith_eq_ok_iff.mp hrun
  refine ⟨f, ?_⟩
  exact {
    inForce_iff := by
      intro g
      rw [Filter.inForce_iff, hforce, Except.ok.injEq]
      exact eq_comm
    stdout_live := (s.linesTo_stdout f).symm
    file_live := (s.linesTo_file f).symm
    file_listed := fun _ => mem_files_of_logFile?
    guarded_iff := by cases s.config.output <;> simp [Output.path?]
    same_filter := by
      intro level environment hf
      rw [run_refiltered (Filter.inForce_iff.mp hf), hrun]
    override := by
      intro text g hg environment henv level
      have hconf := Filter.inForce_iff.mp (.configured henv hg)
      have hover := Filter.inForce_iff.mp (.environment rfl hg : Filter.InForce _ _ level g)
      rw [run_refiltered hconf, run_refiltered hover]
      exact ⟨_, runWith_eq_ok_iff.mpr ⟨hstart, rfl⟩, runWith_eq_ok_iff.mpr ⟨hstart, rfl⟩⟩
    both_same := by
      intro path hpath
      refine ⟨stdout_eq_fileLines hpath f, fun format => ?_⟩
      have hformat : (s.reformatted format).run patterns = (s.reformatted format).runWith f :=
        run_of_effective hforce
      rw [hformat, runWith_reformatted hpath, hrun]
    file_alone := by
      intro path hpath
      have hstdout : s.toStdout.run patterns = s.toStdout.runWith f := run_of_effective hforce
      refine ⟨?_, _, hstdout.trans (runWith_eq_ok_of_stdout rfl f), ?_⟩
      · simp only [stdout, hpath]
      · simp only [fileLines, hpath]
        rfl
    entries_written := fun _ => lines_of_mem_live
    entries_logged := s.map_event_entries f
    plain := by
      intro level hlevel
      obtain rfl := Except.ok.inj ((Filter.ofText_word patterns level).symm.trans hlevel)
      refine ⟨s.logged_ofLevel patterns level, ?_⟩
      exact congrArg s.actions.flatMap
        (funext (Action.entries_ofThreshold patterns (.upTo level)))
    spanned := by
      intro level hlevel
      obtain rfl := Except.ok.inj ((Filter.ofText_tokenizeWord patterns level).symm.trans hlevel)
      exact congrArg s.actions.flatMap (funext (Action.entries_ofSpan patterns level))
    one_line := fun hs _ hw => length_lines_of_mem_live hw hs
    height := fun w _ entry _ => entry.length_lines w.layout
    printable := fun _ hw _ => isPrintable_of_mem_live hw
    cut := fun _ hw => pieces_written fun _ => isPrintable_of_mem_live hw }

/-- A span directive is in force, because the environment holds none, and the query is rejected at
a line break. -/
theorem sinksAgree_lineBreak :
    ∃ f, SinksAgree .ofTexts
      ⟨⟨"[tokenize\x7blen=3\x7d]=trace", .both "app.log", .pretty⟩, some "[", [],
        [.tokenize "a\nb", .scan "c"]⟩ f
      ⟨true,
        ["<TIME> TRACE tokenize\x7blen=3\x7d: customdb_core::query::lexer: " ++
          "token kind=IDENTIFIER text=\x22A\x22",
         "<TIME> TRACE tokenize\x7blen=3\x7d: customdb_core::query::lexer: " ++
          "unexpected character character=\x27\\n\x27 position=1"],
        [("app.log.<DATE>",
          ["<TIME> TRACE tokenize\x7blen=3\x7d: customdb_core::query::lexer: " ++
            "token kind=IDENTIFIER text=\x22A\x22",
           "<TIME> TRACE tokenize\x7blen=3\x7d: customdb_core::query::lexer: " ++
            "unexpected character character=\x27\\n\x27 position=1"])]⟩ :=
  sinksAgree_of_run (by decide +kernel)

end Session

end Log

end QueryScan
