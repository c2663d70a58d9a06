import CollectionGlue.Proofs.CommandSpellings
import CollectionGlue.Proofs.RunEffects
import CollectionGlue.Proofs.UnreadText

/-! # What is generated from a dumped table

A dump loads as the table that was dumped, also where it has replaced the file that this table came from. So
nothing that can be generated from the dump differs from what the source of the dump gave, and a dump of the dump
changes no file.
-/
namespace CollectionGlue

private theorem ofJson_dump (table : TypeTable) : TypeTable.ofJson (table.json ++ "\n") = .ok table := by
  have scanned : scanTable (table.json ++ "\n").toList = .ok (table.entries, ['\n']) := by
    rw [String.toList_append]
    exact scanTable_json table _
  rw [ofJson_eq_of_scanTable scanned, TypeTable.ofEntries_eq_ok_iff.2 rfl]
  rfl

private theorem load_dump {t : FileTree} {path : String} {table : TypeTable}
    (reads : t.readText path = .ok (table.json ++ "\n")) (out : Option String) :
    Files.load ⟨some path, out⟩ t.readText = .ok table := by
  simp only [Files.load, TypeTable.loadOrBuiltin, TypeTable.load, reads, ofJson_dump]
  rfl

/-- No file has an empty path. -/
theorem types_ne_of_load {f : Files} {t : FileTree} {table : TypeTable} (load : f.load t.readText = .ok table) :
    f.types ≠ some "" := by
  intro unnamed
  have unread : t.readText "" = .error .notFound := by
    simp [FileTree.readText, FileTree.readFile, FileTree.target, bind, Except.bind]
  rw [Files.load, unnamed, TypeTable.loadOrBuiltin, TypeTable.load, unread] at load
  cases load

/-- The command can be asked for, and however that is done its run on the tree comes out as promised. -/
structure Command.Ensures (c : Command) (t : FileTree) (promise : Outcome → Prop) : Prop where
  asked : ∃ arguments, Command.parse arguments = .ok c
  run : ∀ level arguments, Command.parse arguments = .ok c → promise (runProgram level arguments t)

private theorem Command.ensures_of_run {c : Command} {t : FileTree} {promise : Outcome → Prop}
    (types : c.files.types ≠ some "") (out : c.files.out ≠ some "")
    (run : ∀ shows, promise ((c.run t).outcome shows)) : c.Ensures t promise := by
  refine ⟨⟨c.arguments, parse_arguments types out⟩, fun level arguments parsed => ?_⟩
  rw [runProgram_of_parse t parsed]
  exact run level.shows

/-- The command succeeds, prints the text and changes nothing. -/
def Command.Prints (c : Command) (t : FileTree) (text : String) : Prop :=
  c.Ensures t fun o => o.exitCode = 0 ∧ o.stdout = text ∧ o.tree = t

/-- The command succeeds and every node stays what it is. -/
def Command.KeepsNodes (c : Command) (t : FileTree) : Prop :=
  c.Ensures t fun o => o.exitCode = 0 ∧ ∀ location, o.tree.node? location = t.node? location

private theorem Command.prints_of_load {c : Command} {t : FileTree} {table : TypeTable} (live : c.isNoOp = false)
    (load : c.files.load t.readText = .ok table) (out : c.files.out = none) : c.Prints t (c.textOf table) := by
  refine ensures_of_run (types_ne_of_load load) (by simp [out]) fun shows => ?_
  rw [run_of_printed live load out]
  exact ⟨rfl, rfl, rfl⟩

/-- What can be generated from a table. -/
inductive Product
  | comparators (header nullGuard : Bool)
  | constructors (header : Bool)
  | table
  deriving DecidableEq, Repr

/-- The command that prints a product of the table from the source. -/
def Product.command (source : Option String) : Product → Command
  | .comparators header nullGuard => .compare ⟨source, none⟩ header nullGuard false
  | .constructors header => .dict ⟨source, none⟩ header false
  | .table => .table ⟨source, none⟩

private theorem Product.textOf_command (product : Product) (source source' : Option String) (table : TypeTable) :
    (product.command source).textOf table = (product.command source').textOf table := by
  cases product <;> rfl

private theorem Product.prints_of_load (product : Product) {source : Option String} {t : FileTree} {table : TypeTable}
    (load : Files.load ⟨source, none⟩ t.readText = .ok table) :
    (product.command source).Prints t ((product.command source).textOf table) := by
  have files : (product.command source).files = ⟨source, none⟩ := by cases product <;> rfl
  have live : (product.command source).isNoOp = false := by cases product <;> rfl
  exact Command.prints_of_load live (files ▸ load) (by rw [files])

/-- A dump may be read and written again in its place. -/
theorem keepsNodes_of_load {t again : FileTree} {table : TypeTable} {path : String}
    (load : Files.load ⟨some path, some path⟩ t.readText = .ok table)
    (done : t.deliver path (table.json ++ "\n") = (again, .ok ()))
    (same : ∀ location, again.node? location = t.node? location) :
    (Command.table ⟨some path, some path⟩).KeepsNodes t := by
  have named := types_ne_of_load load
  have run := Command.run_of_delivered (c := .table ⟨some path, some path⟩) rfl load rfl done
  refine Command.ensures_of_run named named fun shows => ?_
  rw [run]
  exact ⟨rfl, same⟩

/-- After a dump of the table from a source, which may be the same file, every command prints for the dump what it
printed for the source before, and dumping the dump in its place keeps every node. -/
theorem table_dump_normal_form {level : LogLevel} {dump : List String} {source : Option String} {path : String}
    {t : FileTree} (parsed : Command.parse dump = .ok (.table ⟨source, some path⟩))
    (done : (runProgram level dump t).exitCode = 0) :
    (∀ product : Product, ∃ text, (product.command source).Prints t text ∧
      (product.command (some path)).Prints (runProgram level dump t).tree text) ∧
    (Command.table ⟨some path, some path⟩).KeepsNodes (runProgram level dump t).tree := by
  rw [runProgram_of_parse t parsed] at done ⊢
  obtain ⟨table, load, ⟨out, -, -⟩ | ⟨_, out, -, delivery⟩⟩ :=
    ((Command.table ⟨source, some path⟩).course t).succeeded rfl (Run.fault_of_exitCode done)
  · cases out
  · cases out
    have reads := (FileTree.delivered_of_deliver delivery).reads
    refine ⟨fun product => ⟨_, product.prints_of_load load, ?_⟩, ?_⟩
    · rw [product.textOf_command source (some path)]
      exact product.prints_of_load (load_dump reads none)
    · obtain ⟨again, delivery', same⟩ := FileTree.deliver_again delivery
      exact keepsNodes_of_load (load_dump reads (some path)) delivery' same

theorem table_dump_normal_form_in_place :
    Command.parse ["table", "--types", "t.json", "-o", "t.json"] = .ok (.table ⟨some "t.json", some "t.json"⟩) ∧
      (runProgram .info ["table", "--types", "t.json", "-o", "t.json"] (tableTree .builtin)).exitCode = 0 ∧
      (∀ product : Product, ∃ text, (product.command (some "t.json")).Prints (tableTree .builtin) text ∧
        (product.command (some "t.json")).Prints
          (runProgram .info ["table", "--types", "t.json", "-o", "t.json"] (tableTree .builtin)).tree text) ∧
      (Command.table ⟨some "t.json", some "t.json"⟩).KeepsNodes
        (runProgram .info ["table", "--types", "t.json", "-o", "t.json"] (tableTree .builtin)).tree :=
  have parsed : Command.parse ["table", "--types", "t.json", "-o", "t.json"] =
      .ok (.table ⟨some "t.json", some "t.json"⟩) := by decide
  have done := exitCode_tableTree .builtin parsed rfl rfl
  ⟨parsed, done, table_dump_normal_form parsed done⟩

end CollectionGlue
