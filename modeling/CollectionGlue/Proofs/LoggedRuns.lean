import CollectionGlue.Proofs.RunEffects

/-! # What logging does to a run, and what a run prints

A run logs what it does, and a filter only chooses which of the events are shown. They are shown in front of all else
on the error stream, so two runs that differ in their filters differ only there. What is printed is the text of a
table, help or the version, and the courses of a run say when it is nothing.
-/
namespace CollectionGlue

/-- Two outcomes that differ in their error streams only. -/
structure SameEffect (o o' : Outcome) : Prop where
  exitCode : o.exitCode = o'.exitCode
  stdout : o.stdout = o'.stdout
  tree : o.tree = o'.tree

def HidesEvents (shows : EventFilter) : Prop := ∀ e, shows e = false

/-- A text that does not begin with a log line. -/
def Unlogged (text : String) : Prop := ∀ e : Event, ¬e.line.toList <+: text.toList

/-- What may stand on the output stream when the program is run on a tree. -/
inductive Printable (arguments : List String) (t : FileTree) : String → Prop
  | nothing : Printable arguments t ""
  | help {topic : HelpTopic} (asked : Command.parse arguments = .error (.help topic)) :
      Printable arguments t topic.text
  | version (asked : Command.parse arguments = .error .version) : Printable arguments t versionText
  | source {c : Command} {table : TypeTable} (parsed : Command.parse arguments = .ok c)
      (loaded : c.files.load t.readText = .ok table) : Printable arguments t (c.textOf table)

variable {arguments : List String} {c : Command} {t : FileTree} {r : Run}

private theorem Event.rank_level (e : Event) :
    LogLevel.info.rank ≤ e.level.rank ∧ e.level.rank ≤ LogLevel.debug.rank := by
  cases e with
  | wroteSource => exact (by decide : 3 ≤ 3 ∧ 3 ≤ 4)
  | loadedTable | emittingComparators | emittingConstructors => exact (by decide : 3 ≤ 4 ∧ 4 ≤ 4)

private theorem hidesEvents_of_rank {level : LogLevel} (low : level.rank < LogLevel.info.rank) :
    HidesEvents level.shows := by
  intro e
  have least := e.rank_level.1
  exact decide_eq_false (by omega)

private theorem shows_debug (e : Event) : LogLevel.debug.shows e = true := decide_eq_true e.rank_level.2

private theorem shownLog_of_hides {shows : EventFilter} (hides : HidesEvents shows) (events : List Event) :
    shownLog shows events = "" := by
  rw [shownLog, List.filter_eq_nil_iff.2 fun e _ => by simp [hides e]]
  rfl

private theorem head_append {a b : String} {c : Char} (h : a.toList.head? = some c) :
    (a ++ b).toList.head? = some c := by
  rw [String.toList_append, List.head?_append, h, Option.some_or]

private theorem Event.head_line (e : Event) : ∃ c, e.line.toList.head? = some c ∧ (c = 'D' ∨ c = ' ') := by
  cases e with
  | wroteSource => exact ⟨' ', head_append (head_append (head_append (head_append rfl))), .inr rfl⟩
  | loadedTable | emittingComparators | emittingConstructors =>
    exact ⟨'D', head_append (head_append (head_append (head_append rfl))), .inl rfl⟩

private theorem unlogged_of_head {text : String} {c : Char} (head : text.toList.head? = some c)
    (other : c ≠ 'D' ∧ c ≠ ' ') : Unlogged text := by
  rintro e ⟨rest, whole⟩
  obtain ⟨d, front, log⟩ := e.head_line
  rw [← whole, List.head?_append, front, Option.some_or] at head
  cases head
  exact log.elim other.1 other.2

private theorem unlogged_empty : Unlogged "" := by
  intro e begins
  have empty : e.line.toList = [] := List.prefix_nil.1 begins
  obtain ⟨c, front, -⟩ := e.head_line
  simp [empty] at front

private theorem unlogged_report (fault : RunFault) : Unlogged fault.report :=
  unlogged_of_head (head_append (head_append rfl)) (by decide : 'e' ≠ 'D' ∧ 'e' ≠ ' ')

private theorem unlogged_outlineText (c : Command) : Unlogged (c.outlineText ++ "\n") := by
  have head : (c.outlineText ++ "\n").toList.head? = some 'C' := by
    cases c <;> simp [Command.outlineText, Command.outline, variantOutline, String.toList_intercalate, indentation]
  exact unlogged_of_head head (by decide)

private theorem unlogged_fault (f : UsageFault) : Unlogged (f.text .stream) := by
  have head : (f.text .stream).toList.head? = some 'e' := by simp [UsageFault.text, firstLine]
  exact unlogged_of_head head (by decide)

private theorem unlogged_programHelp : Unlogged HelpTopic.program.text := by
  have head : HelpTopic.program.text.toList.head? = some 'g' := by
    iterate 8 apply head_append
    rfl
  exact unlogged_of_head head (by decide)

private theorem Stop.unlogged_stderr (s : Stop) : Unlogged s.output.stderr := by
  cases s with
  | fault f => exact unlogged_fault f
  | helpInstead => exact unlogged_programHelp
  | help topic => exact unlogged_empty
  | version => exact unlogged_empty

/-- What a run writes to the error stream behind its log. -/
def Report.message (r : Report) : String := r.notice ++ (r.fault.map RunFault.report).getD ""

private theorem Course.unlogged_message (course : Course c t r) : Unlogged r.message := by
  cases course with
  | idle => simpa [Report.message] using unlogged_outlineText c
  | unloaded | undelivered => simpa [Report.message] using unlogged_report _
  | printed | delivered => simpa [Report.message] using unlogged_empty

/-- The error stream begins with the events that are shown, and nothing behind them looks like one. -/
theorem exists_stderr (arguments : List String) (t : FileTree) :
    ∃ events message, Unlogged message ∧
      ∀ shows, (runShowing shows arguments t).stderr = shownLog shows events ++ message := by
  cases parsed : Command.parse arguments with
  | error stop =>
    refine ⟨[], stop.output.stderr, stop.unlogged_stderr, fun shows => ?_⟩
    rw [runShowing_of_stop shows t parsed]
    exact String.empty_append.symm
  | ok c =>
    refine ⟨(c.run t).events, (c.run t).message, (c.course t).unlogged_message, fun shows => ?_⟩
    rw [runShowing_of_parse shows t parsed, Run.outcome, Report.output, Report.message, String.append_assoc]

private theorem sameEffect_filters (shows shows' : EventFilter) (arguments : List String) (t : FileTree) :
    SameEffect (runShowing shows arguments t) (runShowing shows' arguments t) := by
  cases parsed : Command.parse arguments with
  | error stop =>
    rw [runShowing_of_stop shows t parsed, runShowing_of_stop shows' t parsed]
    exact ⟨rfl, rfl, rfl⟩
  | ok c =>
    rw [runShowing_of_parse shows t parsed, runShowing_of_parse shows' t parsed]
    exact ⟨rfl, rfl, rfl⟩

private theorem Course.printable (parsed : Command.parse arguments = .ok c) (course : Course c t r) :
    Printable arguments t r.stdout := by
  cases course with
  | printed _ load => exact .source parsed load
  | idle | unloaded | undelivered | delivered => exact .nothing

/-- A run prints only if it has nothing else to do with its text. -/
theorem Course.stdout_eq_empty (course : Course c t r)
    (silent : r.fault ≠ none ∨ c.files.out ≠ none ∨ c.isNoOp = true) : r.stdout = "" := by
  cases course with
  | printed live _ out => simp [live, out] at silent
  | idle | unloaded | undelivered | delivered => rfl

private theorem Stop.printable {stop : Stop} (parsed : Command.parse arguments = .error stop) :
    Printable arguments t stop.output.stdout := by
  cases stop with
  | help topic => exact .help parsed
  | version => exact .version parsed
  | fault | helpInstead => exact .nothing

private theorem Stop.stdout_eq_empty {stop : Stop} (failed : stop.output.exitCode ≠ 0) : stop.output.stdout = "" := by
  cases stop with
  | help | version => exact absurd rfl failed
  | fault | helpInstead => rfl

private theorem printable_stdout (shows : EventFilter) (arguments : List String) (t : FileTree) :
    Printable arguments t (runShowing shows arguments t).stdout := by
  cases parsed : Command.parse arguments with
  | error stop =>
    rw [runShowing_of_stop shows t parsed]
    exact stop.printable parsed
  | ok c =>
    rw [runShowing_of_parse shows t parsed]
    exact (c.course t).printable parsed

private theorem stdout_eq_empty_of_failed {shows : EventFilter} (failed : (runShowing shows arguments t).exitCode ≠ 0) :
    (runShowing shows arguments t).stdout = "" := by
  cases parsed : Command.parse arguments with
  | error stop =>
    rw [runShowing_of_stop shows t parsed] at failed ⊢
    exact stop.stdout_eq_empty failed
  | ok c =>
    rw [runShowing_of_parse shows t parsed] at failed ⊢
    refine (c.course t).stdout_eq_empty (.inl fun done => failed ?_)
    rw [Run.outcome, Report.output, done]
    rfl

/-- A choice of the events that are shown changes nothing but the error stream, from which a filter that hides all
events leaves out the log that it begins with. The output stream holds the text that was asked for, and nothing if the
run fails, has an output file or is not to do anything. -/
theorem logging_and_output (arguments : List String) (t : FileTree) :
    (∀ shows shows', SameEffect (runShowing shows arguments t) (runShowing shows' arguments t)) ∧
    (∀ setting ∈ [none, some "off", some "error", some "warn"], HidesEvents (LogLevel.ofSetting setting).shows) ∧
    (∃ events : List Event, ∀ quiet, HidesEvents quiet →
      Unlogged (runShowing quiet arguments t).stderr ∧
      (runProgram (.ofSetting (some "debug")) arguments t).stderr =
        String.join (events.map Event.line) ++ (runShowing quiet arguments t).stderr ∧
      ∀ shows, (runShowing shows arguments t).stderr =
        String.join ((events.filter shows).map Event.line) ++ (runShowing quiet arguments t).stderr) ∧
    ∀ shows, Printable arguments t (runShowing shows arguments t).stdout ∧
      ((runShowing shows arguments t).exitCode ≠ 0 → (runShowing shows arguments t).stdout = "") ∧
      ∀ c, Command.parse arguments = .ok c → c.files.out ≠ none ∨ c.isNoOp = true →
        (runShowing shows arguments t).stdout = "" := by
  refine ⟨fun shows shows' => sameEffect_filters shows shows' arguments t, ?_, ?_, fun shows => ?_⟩
  · have low : ∀ setting ∈ [none, some "off", some "error", some "warn"],
        (LogLevel.ofSetting setting).rank < LogLevel.info.rank := by decide
    exact fun setting mem => hidesEvents_of_rank (low setting mem)
  · obtain ⟨events, message, unlogged, stderr⟩ := exists_stderr arguments t
    refine ⟨events, fun quiet hides => ?_⟩
    have kept : (runShowing quiet arguments t).stderr = message := by
      rw [stderr, shownLog_of_hides hides, String.empty_append]
    have debug : LogLevel.ofSetting (some "debug") = .debug := by decide
    rw [kept, debug, runProgram, stderr, shownLog, List.filter_eq_self.2 fun e _ => shows_debug e]
    exact ⟨unlogged, rfl, stderr⟩
  · refine ⟨printable_stdout shows arguments t, stdout_eq_empty_of_failed, fun c parsed silent => ?_⟩
    rw [runShowing_of_parse shows t parsed]
    exact (c.course t).stdout_eq_empty (.inr silent)

end CollectionGlue
