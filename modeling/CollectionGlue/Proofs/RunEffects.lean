import CollectionGlue.Proofs.TableReloading
import CollectionGlue.Proofs.TreeChanges

/-! # What a run leaves behind

A run reads, renders and delivers, in this order, and each of the five courses it can take says how far it came.
So a run that succeeds changes what its output file asks for and nothing else, and one that fails changes no file:
whatever it reports, the file was not yet opened.
-/
namespace CollectionGlue

/-- The events of a run that has rendered a table. -/
def Command.renderEvents (c : Command) (table : TypeTable) : List Event :=
  c.files.loading table ++ c.emitting table

/-- The courses that the run of a command can take on a tree. -/
inductive Course (c : Command) (t : FileTree) : Run → Prop
  | idle (noOp : c.isNoOp = true) : Course c t ⟨⟨[], "", c.outlineText ++ "\n", none⟩, t⟩
  | unloaded {fault : RunFault} (live : c.isNoOp = false) (load : c.files.load t.readText = .error fault) :
      Course c t ⟨⟨[], "", "", some fault⟩, t⟩
  | printed {table : TypeTable} (live : c.isNoOp = false) (load : c.files.load t.readText = .ok table)
      (out : c.files.out = none) : Course c t ⟨⟨c.renderEvents table, c.textOf table, "", none⟩, t⟩
  | undelivered {table : TypeTable} {path : String} {after : FileTree} {fault : RunFault}
      (live : c.isNoOp = false) (load : c.files.load t.readText = .ok table) (out : c.files.out = some path)
      (failed : t.deliver path (c.textOf table) = (after, .error fault)) :
      Course c t ⟨⟨c.renderEvents table, "", "", some fault⟩, after⟩
  | delivered {table : TypeTable} {path : String} {after : FileTree} (live : c.isNoOp = false)
      (load : c.files.load t.readText = .ok table) (out : c.files.out = some path)
      (done : t.deliver path (c.textOf table) = (after, .ok ())) :
      Course c t ⟨⟨c.renderEvents table ++ [.wroteSource path (c.textOf table).utf8ByteSize], "", "", none⟩, after⟩

private theorem Command.render_of_load_ok {c : Command} {read : String → Except SystemFault String} {table : TypeTable}
    (load : c.files.load read = .ok table) : c.render read = ⟨c.renderEvents table, .ok (c.textOf table)⟩ := by
  simp only [render, load, renderEvents]

private theorem Command.render_of_load_error {c : Command} {read : String → Except SystemFault String}
    {fault : RunFault} (load : c.files.load read = .error fault) : c.render read = ⟨[], .error fault⟩ := by
  simp only [render, load]

theorem Command.course (c : Command) (t : FileTree) : Course c t (c.run t) := by
  rw [run_eq]
  cases noOp : c.isNoOp with
  | true => exact .idle noOp
  | false =>
    simp only [Bool.false_eq_true, ↓reduceIte]
    cases load : c.files.load t.readText with
    | error fault =>
      rw [render_of_load_error load]
      exact .unloaded noOp load
    | ok table =>
      rw [render_of_load_ok load]
      cases out : c.files.out with
      | none => exact .printed noOp load out
      | some path =>
        simp only
        rcases delivery : t.deliver path (c.textOf table) with ⟨after, fault | done⟩
        · exact .undelivered noOp load out delivery
        · exact .delivered noOp load out delivery

theorem Command.run_of_printed {c : Command} {t : FileTree} {table : TypeTable} (live : c.isNoOp = false)
    (load : c.files.load t.readText = .ok table) (out : c.files.out = none) :
    c.run t = ⟨⟨c.renderEvents table, c.textOf table, "", none⟩, t⟩ := by
  simp [run_eq, live, render_of_load_ok load, out]

theorem Command.run_of_delivered {c : Command} {t after : FileTree} {table : TypeTable} {path : String}
    (live : c.isNoOp = false) (load : c.files.load t.readText = .ok table) (out : c.files.out = some path)
    (done : t.deliver path (c.textOf table) = (after, .ok ())) :
    c.run t = ⟨⟨c.renderEvents table ++ [.wroteSource path (c.textOf table).utf8ByteSize], "", "", none⟩, after⟩ := by
  simp [run_eq, live, render_of_load_ok load, out, done]

theorem Run.fault_of_exitCode {shows : EventFilter} {r : Run} (done : (r.outcome shows).exitCode = 0) :
    r.fault = none := by
  cases fault : r.fault with
  | none => rfl
  | some _ => simp [Run.outcome, Report.output, fault] at done

/-- A run that was to do something and did not fail has loaded a table, and has printed or delivered its text. -/
theorem Course.succeeded {c : Command} {t : FileTree} {r : Run} (course : Course c t r) (live : c.isNoOp = false)
    (done : r.fault = none) : ∃ table, c.files.load t.readText = .ok table ∧
      ((c.files.out = none ∧ r.stdout = c.textOf table ∧ r.tree = t) ∨
        ∃ path, c.files.out = some path ∧ r.stdout = "" ∧
          t.deliver path (c.textOf table) = (r.tree, .ok ())) := by
  cases course with
  | idle noOp => rw [live] at noOp; cases noOp
  | unloaded => cases done
  | undelivered => cases done
  | printed _ load out => exact ⟨_, load, .inl ⟨out, rfl, rfl⟩⟩
  | delivered _ load out delivery => exact ⟨_, load, .inr ⟨_, out, rfl, delivery⟩⟩

/-- A run that succeeds has rendered its text from the files as they were. It prints the text and leaves the tree
alone, or, if there is an output file, it prints nothing and delivers the text there. -/
theorem successful_run_effect {level : LogLevel} {arguments : List String} {c : Command} {t : FileTree}
    (parsed : Command.parse arguments = .ok c) (live : c.isNoOp = false)
    (done : (runProgram level arguments t).exitCode = 0) :
    ∃ text, (c.render t.readText).text = .ok text ∧
      match c.files.out with
      | none => (runProgram level arguments t).stdout = text ∧ (runProgram level arguments t).tree = t
      | some path => (runProgram level arguments t).stdout = "" ∧
          t.Delivered path text (runProgram level arguments t).tree := by
  rw [runProgram_of_parse t parsed] at done ⊢
  obtain ⟨table, load, way⟩ := (c.course t).succeeded live (Run.fault_of_exitCode done)
  refine ⟨c.textOf table, by rw [Command.render_of_load_ok load], ?_⟩
  rcases way with ⟨out, stdout, tree⟩ | ⟨path, out, stdout, delivery⟩
  · rw [out]
    exact ⟨stdout, tree⟩
  · rw [out]
    exact ⟨stdout, FileTree.delivered_of_deliver delivery⟩

/-- A tree with the text of a table in one file. -/
def tableTree (table : TypeTable) : FileTree := ⟨[(["t.json"], .file table.json.toUTF8)], []⟩

private theorem opensFile_tableTree (table : TypeTable) : (tableTree table).opensFile "t.json" :=
  ⟨[], "t.json", rfl, by decide, by decide⟩

private theorem readText_tableTree (table : TypeTable) : (tableTree table).readText "t.json" = .ok table.json :=
  FileTree.readText_of_file (opensFile_tableTree table) rfl

private theorem load_tableTree (table : TypeTable) (out : Option String) :
    Files.load ⟨some "t.json", out⟩ (tableTree table).readText = .ok table := by
  simp only [Files.load, TypeTable.loadOrBuiltin, TypeTable.load, readText_tableTree, ofJson_json]
  rfl

/-- A command may read its table from the file that it writes. -/
theorem exitCode_tableTree {level : LogLevel} {arguments : List String} {c : Command} (table : TypeTable)
    (parsed : Command.parse arguments = .ok c) (live : c.isNoOp = false)
    (files : c.files = ⟨some "t.json", some "t.json"⟩) :
    (runProgram level arguments (tableTree table)).exitCode = 0 := by
  have load : c.files.load (tableTree table).readText = .ok table := files ▸ load_tableTree table _
  have written : (tableTree table).writeFile "t.json" (c.textOf table).toUTF8 =
      .ok ((tableTree table).put ["t.json"] (.file (c.textOf table).toUTF8)) :=
    FileTree.writeFile_eq_ok_iff.2 ⟨opensFile_tableTree table, (by intro stands; cases stands), rfl⟩
  have delivery : (tableTree table).deliver "t.json" (c.textOf table) =
      ((tableTree table).put ["t.json"] (.file (c.textOf table).toUTF8), .ok ()) := by
    have nothing_above : directoriesAbove "t.json" = [] := by decide
    simp only [FileTree.deliver_eq, nothing_above, FileTree.makeDirectories_nil, written]
  rw [runProgram_of_parse _ parsed, Command.run_of_delivered live load (by rw [files]) delivery]
  rfl

theorem successful_run_effect_in_place :
    Command.parse ["dict", "--header", "--types", "t.json", "-o", "t.json"] =
        .ok (.dict ⟨some "t.json", some "t.json"⟩ true false) ∧
      (Command.dict ⟨some "t.json", some "t.json"⟩ true false).isNoOp = false ∧
      (runProgram .debug ["dict", "--header", "--types", "t.json", "-o", "t.json"]
        (tableTree .builtin)).exitCode = 0 ∧
      ∃ text, ((Command.dict ⟨some "t.json", some "t.json"⟩ true false).render
          (tableTree .builtin).readText).text = .ok text ∧
        (runProgram .debug ["dict", "--header", "--types", "t.json", "-o", "t.json"]
          (tableTree .builtin)).stdout = "" ∧
        (tableTree .builtin).Delivered "t.json" text
          (runProgram .debug ["dict", "--header", "--types", "t.json", "-o", "t.json"] (tableTree .builtin)).tree :=
  have parsed : Command.parse ["dict", "--header", "--types", "t.json", "-o", "t.json"] =
      .ok (.dict ⟨some "t.json", some "t.json"⟩ true false) := by decide
  have done := exitCode_tableTree .builtin parsed rfl rfl
  ⟨parsed, rfl, done, successful_run_effect parsed rfl done⟩

/-- The phases of a run that can fail. -/
inductive Phase | loading | creating | writing
  deriving DecidableEq, Repr

/-- A command fails in a phase on a tree, and the report of it begins with the given words. -/
inductive FailsIn (c : Command) (t : FileTree) : Phase → String → Prop
  | loading {path : String} {fault : LoadFault} (source : c.files.types = some path)
      (refused : TypeTable.load t.readText path = .error fault) :
      FailsIn c t .loading ("loading type table from " ++ path)
  | creating {text path nearest : String} {outer : List String} {made : FileTree} {cause : SystemFault}
      (rendered : (c.render t.readText).text = .ok text) (out : c.files.out = some path)
      (above : directoriesAbove path = nearest :: outer)
      (refused : t.makeDirectories (directoriesAbove path) = (made, some cause)) :
      FailsIn c t .creating ("creating directory " ++ nearest)
  | writing {text path : String} {made : FileTree} {cause : SystemFault}
      (rendered : (c.render t.readText).text = .ok text) (out : c.files.out = some path)
      (created : t.makeDirectories (directoriesAbove path) = (made, none))
      (refused : made.writeFile path text.toUTF8 = .error cause) :
      FailsIn c t .writing ("writing " ++ path)

private theorem Files.load_eq_error {f : Files} {read : String → Except SystemFault String} {fault : RunFault}
    (h : f.load read = .error fault) :
    ∃ path cause, f.types = some path ∧ TypeTable.load read path = .error cause ∧ fault = .loading path cause := by
  cases source : f.types with
  | none => rw [Files.load, source] at h; cases h
  | some path =>
    rw [Files.load, source, TypeTable.loadOrBuiltin] at h
    cases load : TypeTable.load read path with
    | ok table => rw [load] at h; cases h
    | error cause =>
      rw [load] at h
      cases h
      exact ⟨path, cause, rfl, load, rfl⟩

/-- The places where a failed run may have made directories. -/
def Command.growth (c : Command) (t : FileTree) : Phase → List Location
  | .loading => []
  | .creating | .writing => (c.files.out.map t.wayTo).getD []

private theorem mem_growth {c : Command} {t : FileTree} {phase : Phase} {location : Location}
    (mem : location ∈ c.growth t phase) :
    phase ≠ .loading ∧ ∃ path, c.files.out = some path ∧ location ∈ t.wayTo path := by
  cases phase with
  | loading => cases mem
  | creating | writing =>
    cases out : c.files.out with
    | none => simp [Command.growth, out] at mem
    | some path => exact ⟨by decide, path, rfl, by simpa [Command.growth, out] using mem⟩

/-- What a run leaves that failed with the fault: the report of its phase, and at most directories. -/
structure FailedRun (c : Command) (t : FileTree) (r : Run) (fault : RunFault) : Prop where
  live : c.isNoOp = false
  phase : ∃ phase first causes, FailsIn c t phase first ∧ fault.chain = first :: causes ∧ causes ≠ [] ∧
    FileTree.GrownWithin (c.growth t phase) t r.tree
  events : r.events = (c.render t.readText).events
  notice : r.notice = ""

private theorem failedRun_of_load {c : Command} {t : FileTree} {fault : RunFault} (live : c.isNoOp = false)
    (load : c.files.load t.readText = .error fault) : FailedRun c t ⟨⟨[], "", "", some fault⟩, t⟩ fault := by
  obtain ⟨path, cause, source, refused, rfl⟩ := Files.load_eq_error load
  refine ⟨live, ⟨.loading, _, _, .loading source refused, rfl, List.cons_ne_nil _ _, .refl _ t⟩, ?_, rfl⟩
  rw [Command.render_of_load_error load]

private theorem failedRun_of_deliver {c : Command} {t after : FileTree} {table : TypeTable} {path : String}
    {fault : RunFault} (live : c.isNoOp = false) (load : c.files.load t.readText = .ok table)
    (out : c.files.out = some path) (failed : t.deliver path (c.textOf table) = (after, .error fault)) :
    FailedRun c t ⟨⟨c.renderEvents table, "", "", some fault⟩, after⟩ fault := by
  have render := Command.render_of_load_ok load
  have rendered : (c.render t.readText).text = .ok (c.textOf table) := by rw [render]
  have places (phase : Phase) (later : phase ≠ .loading) : c.growth t phase = t.wayTo path := by
    cases phase with
    | loading => exact absurd rfl later
    | creating => simp [Command.growth, out]
    | writing => simp [Command.growth, out]
  refine ⟨live, ?_, by rw [render], rfl⟩
  obtain ⟨made, refusal, created, ⟨cause, rfl, outcome⟩ | ⟨cause, rfl, refused, outcome⟩ | ⟨_, -, -, outcome⟩⟩ :=
    t.deliver_cases path (c.textOf table)
  · cases outcome.symm.trans failed
    have grown := (FileTree.makeDirectories_above created).1
    cases above : directoriesAbove path with
    | nil => rw [above] at created; cases created
    | cons nearest outer =>
      refine ⟨.creating, _, _, .creating rendered out above created, rfl, List.cons_ne_nil _ _, ?_⟩
      rwa [places .creating (by decide)]
  · cases outcome.symm.trans failed
    have grown := (FileTree.makeDirectories_above created).1
    refine ⟨.writing, _, _, .writing rendered out created refused, rfl, List.cons_ne_nil _ _, ?_⟩
    rwa [places .writing (by decide)]
  · cases outcome.symm.trans failed

private theorem Course.failedRun {c : Command} {t : FileTree} {r : Run} {fault : RunFault} (course : Course c t r)
    (failed : r.fault = some fault) : FailedRun c t r fault := by
  cases course with
  | idle => cases failed
  | printed => cases failed
  | delivered => cases failed
  | unloaded live load =>
    cases failed
    exact failedRun_of_load live load
  | undelivered live load out delivery =>
    cases failed
    exact failedRun_of_deliver live load out delivery

private theorem Stop.exitCode_output (s : Stop) : s.output.exitCode ≠ 1 := by
  unfold Stop.output Stop.exitCode
  split <;> simp_all

/-- A run that does not succeed, by its arguments or on its way, leaves the tree as it was or leads to a failed
run of the command. -/
theorem runProgram_failed {level : LogLevel} {arguments : List String} {t : FileTree}
    (failed : (runProgram level arguments t).exitCode ≠ 0 ∨
      ∃ c, Command.parse arguments = .ok c ∧ c.isNoOp = true) :
    ((runProgram level arguments t).exitCode ≠ 1 ∧ (runProgram level arguments t).tree = t) ∨
      ∃ c fault, Command.parse arguments = .ok c ∧ FailedRun c t (c.run t) fault ∧
        (runProgram level arguments t).stderr = logText level (c.render t.readText).events ++ fault.report ∧
        (runProgram level arguments t).tree = (c.run t).tree := by
  cases parsed : Command.parse arguments with
  | error stop =>
    rw [runProgram_of_stop t parsed]
    exact .inl ⟨stop.exitCode_output, rfl⟩
  | ok c =>
    rw [runProgram_of_parse t parsed] at failed ⊢
    cases trouble : (c.run t).fault with
    | some fault =>
      have run := (c.course t).failedRun trouble
      refine .inr ⟨c, fault, rfl, run, ?_, rfl⟩
      simp [Run.outcome, Report.output, logText, run.events, run.notice, trouble]
    | none =>
      have idle : c.isNoOp = true := by
        rcases failed with code | ⟨_, same, noOp⟩
        · simp [Run.outcome, Report.output, trouble] at code
        · rw [parsed] at same
          cases same
          exact noOp
      exact .inl ⟨by simp [Run.outcome, Report.output, trouble], by simp [Run.outcome, Command.run_eq, idle]⟩

/-- A run that fails, or is not to do anything, makes and changes no file. It has made directories only if it
rendered its text and then failed to create a directory above its output file or to open the file, and only on
the way there. If the program reports a failure then as the last thing and once, naming what it failed to do
before the causes. -/
theorem failed_run_effect {level : LogLevel} {arguments : List String} {t : FileTree}
    (failed : (runProgram level arguments t).exitCode ≠ 0 ∨
      ∃ c, Command.parse arguments = .ok c ∧ c.isNoOp = true) :
    (∀ location content, (runProgram level arguments t).tree.node? location = some (.file content) ↔
      t.node? location = some (.file content)) ∧
    (∀ location, (runProgram level arguments t).tree.node? location = some .directory →
      t.node? location ≠ some .directory →
      ∃ c phase first path, Command.parse arguments = .ok c ∧ c.isNoOp = false ∧ FailsIn c t phase first ∧
        phase ≠ .loading ∧ c.files.out = some path ∧ location ∈ t.wayTo path) ∧
    ((runProgram level arguments t).exitCode = 1 →
      ∃ c phase first causes, Command.parse arguments = .ok c ∧ c.isNoOp = false ∧ FailsIn c t phase first ∧
        causes ≠ [] ∧ (runProgram level arguments t).stderr = logText level (c.render t.readText).events ++
          ("error: " ++ ": ".intercalate (first :: causes) ++ "\n")) := by
  rcases runProgram_failed failed with ⟨code, tree⟩ | ⟨c, fault, parsed, run, stderr, tree⟩
  · rw [tree]
    exact ⟨fun _ _ => .rfl, fun _ stands new => absurd stands new, fun one => absurd one code⟩
  · obtain ⟨phase, first, causes, fails, chain, some_cause, grown⟩ := run.phase
    rw [tree, stderr]
    refine ⟨fun _ _ => grown.file_iff, fun location stands new => ?_, fun _ => ?_⟩
    · obtain ⟨later, path, out, mem⟩ := mem_growth (grown.made stands new).1
      exact ⟨c, phase, first, path, parsed, run.live, fails, later, out, mem⟩
    · exact ⟨c, phase, first, causes, parsed, run.live, fails, some_cause, by rw [RunFault.report, RunFault.message, chain]⟩

/-- A tree with a file where a directory is asked for. -/
def blockedTree : FileTree := ⟨[(["t.json"], .file "kept".toUTF8)], []⟩

/-- The directory "new" is made before the file turns out to be in the way. -/
def blockedRun : Outcome := runProgram .debug ["dict", "--out", "new/../t.json/x"] blockedTree

private theorem exitCode_blockedRun : blockedRun.exitCode = 1 := by decide +kernel

example : blockedRun.tree.node? ["new"] = some .directory := by decide +kernel

theorem failed_run_effect_blocked :
    (blockedRun.exitCode ≠ 0 ∨
      ∃ c, Command.parse ["dict", "--out", "new/../t.json/x"] = .ok c ∧ c.isNoOp = true) ∧
    (∀ location content, blockedRun.tree.node? location = some (.file content) ↔
      blockedTree.node? location = some (.file content)) ∧
    (∀ location, blockedRun.tree.node? location = some .directory →
      blockedTree.node? location ≠ some .directory →
      ∃ c phase first path, Command.parse ["dict", "--out", "new/../t.json/x"] = .ok c ∧ c.isNoOp = false ∧
        FailsIn c blockedTree phase first ∧ phase ≠ .loading ∧ c.files.out = some path ∧
        location ∈ blockedTree.wayTo path) ∧
    (blockedRun.exitCode = 1 →
      ∃ c phase first causes, Command.parse ["dict", "--out", "new/../t.json/x"] = .ok c ∧ c.isNoOp = false ∧
        FailsIn c blockedTree phase first ∧ causes ≠ [] ∧
        blockedRun.stderr = logText .debug (c.render blockedTree.readText).events ++
          ("error: " ++ ": ".intercalate (first :: causes) ++ "\n")) := by
  have failed : blockedRun.exitCode ≠ 0 ∨
      ∃ c, Command.parse ["dict", "--out", "new/../t.json/x"] = .ok c ∧ c.isNoOp = true := by
    rw [exitCode_blockedRun]
    exact .inl (by decide)
  exact ⟨failed, failed_run_effect failed⟩

end CollectionGlue
