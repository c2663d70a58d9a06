import CollectionGlue.ProgramRuns

/-! # The steps of the program on a tree of files

Each step on any file system gets an equation for what it does to a tree, so that nothing behind this looks into the
passing on of the state.
-/
namespace CollectionGlue

private theorem run_bind {σ α β : Type} (x : StateM σ α) (f : α → StateM σ β) (s : σ) :
    (x >>= f).run s = (f (x.run s).1).run (x.run s).2 := rfl

namespace FileTree

private theorem run_change (step : FileTree → Except SystemFault FileTree) (t : FileTree) :
    (change step).run t = match step t with
      | .ok changed => (.ok (), changed)
      | .error fault => (.error fault, t) := by
  rw [change, run_bind]
  change StateT.run (match step t with | .ok _ => _ | .error _ => _) t = _
  cases step t <;> rfl

private theorem run_makeDirectory (t : FileTree) (path : String) :
    (system.makeDirectory path).run t = match t.makeDirectory path with
      | .ok made => (.ok (), made)
      | .error fault => (.error fault, t) :=
  run_change _ t

private theorem run_writeFile (t : FileTree) (path : String) (content : ByteArray) :
    (system.writeFile path content).run t = match t.writeFile path content with
      | .ok written => (.ok (), written)
      | .error fault => (.error fault, t) :=
  run_change _ t

theorem makeDirectories_nil (t : FileTree) : t.makeDirectories [] = (t, none) := rfl

theorem makeDirectories_cons (t : FileTree) (path : String) (outer : List String) :
    t.makeDirectories (path :: outer) =
      match t.makeDirectory path with
      | .ok made => (made, none)
      | .error .notFound =>
        match t.makeDirectories outer with
        | (made, some fault) => (made, some fault)
        | (made, none) =>
          match made.makeDirectory path with
          | .ok all => (all, none)
          | .error fault => (made, if made.isDirectory path then none else some fault)
      | .error fault => (t, if t.isDirectory path then none else some fault) := by
  simp only [makeDirectories, FileSystem.makeDirectories, run_bind, run_makeDirectory]
  cases t.makeDirectory path with
  | ok made => rfl
  | error fault =>
    cases fault with
    | notFound =>
      rw [run_bind]
      rcases (system.makeDirectories outer).run t with ⟨_ | fault, made⟩
      · simp only [run_bind, run_makeDirectory]
        cases made.makeDirectory path <;> rfl
      · rfl
    | _ => rfl

theorem deliver_eq (t : FileTree) (path text : String) :
    t.deliver path text =
      match t.makeDirectories (directoriesAbove path) with
      | (made, some fault) => (made, .error (.creatingDirectory ((directoriesAbove path).head?.getD "") fault))
      | (made, none) =>
        match made.writeFile path text.toUTF8 with
        | .error fault => (made, .error (.writing path fault))
        | .ok written => (written, .ok ()) := by
  simp only [deliver, FileSystem.deliver, run_bind, makeDirectories]
  rcases (system.makeDirectories (directoriesAbove path)).run t with ⟨_ | fault, made⟩
  · simp only [run_bind, run_writeFile]
    cases made.writeFile path text.toUTF8 <;> rfl
  · rfl

end FileTree

private theorem Files.run_source (f : Files) (t : FileTree) :
    ((f.source FileTree.system).run t).2 = t := by
  unfold source
  cases f.types <;> rfl

/-- Of all texts a command reads that of its type table only. -/
private theorem Command.render_source (c : Command) (t : FileTree) :
    (c.render fun _ => ((c.files.source FileTree.system).run t).1) = c.render t.readText := by
  have load : (c.files.load fun _ => ((c.files.source FileTree.system).run t).1) = c.files.load t.readText := by
    unfold Files.load Files.source
    cases c.files.types <;> rfl
  rw [render, render, load]

theorem Command.run_eq (c : Command) (t : FileTree) :
    c.run t =
      if c.isNoOp then ⟨⟨[], "", c.outlineText ++ "\n", none⟩, t⟩
      else
        match (c.render t.readText).text, c.files.out with
        | .error fault, _ => ⟨⟨(c.render t.readText).events, "", "", some fault⟩, t⟩
        | .ok text, none => ⟨⟨(c.render t.readText).events, text, "", none⟩, t⟩
        | .ok text, some path =>
          match t.deliver path text with
          | (after, .error fault) => ⟨⟨(c.render t.readText).events, "", "", some fault⟩, after⟩
          | (after, .ok ()) =>
            ⟨⟨(c.render t.readText).events ++ [.wroteSource path text.utf8ByteSize], "", "", none⟩, after⟩ := by
  unfold run perform
  split
  · rfl
  · simp only [run_bind, c.files.run_source t, c.render_source t]
    cases (c.render t.readText).text with
    | error fault => rfl
    | ok text =>
      cases c.files.out with
      | none => rfl
      | some path =>
        simp only [run_bind, FileTree.deliver]
        rcases (FileTree.system.deliver path text).run t with ⟨fault | done, after⟩ <;> rfl

def Stop.outcome (s : Stop) (t : FileTree) : Outcome := ⟨s.output, t⟩

def Run.outcome (shows : EventFilter) (r : Run) : Outcome := ⟨r.output shows, r.tree⟩

section
variable {arguments : List String}

theorem runShowing_of_stop {stop : Stop} (shows : EventFilter) (t : FileTree)
    (parsed : Command.parse arguments = .error stop) : runShowing shows arguments t = stop.outcome t := by
  rw [runShowing, program, parsed]
  rfl

theorem runShowing_of_parse {c : Command} (shows : EventFilter) (t : FileTree)
    (parsed : Command.parse arguments = .ok c) : runShowing shows arguments t = (c.run t).outcome shows := by
  rw [runShowing, program, parsed]
  rfl

theorem runProgram_of_stop {stop : Stop} {level : LogLevel} (t : FileTree)
    (parsed : Command.parse arguments = .error stop) : runProgram level arguments t = stop.outcome t :=
  runShowing_of_stop level.shows t parsed

theorem runProgram_of_parse {c : Command} {level : LogLevel} (t : FileTree)
    (parsed : Command.parse arguments = .ok c) : runProgram level arguments t = (c.run t).outcome level.shows :=
  runShowing_of_parse level.shows t parsed

end

end CollectionGlue
