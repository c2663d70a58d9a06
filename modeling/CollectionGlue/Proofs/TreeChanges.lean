import CollectionGlue.Proofs.ResolvedPaths
import CollectionGlue.Proofs.TreeSteps

/-! # What making directories and writing a file change in a tree

Making the directories above a path makes nothing but missing directories on the way to the path, also when a
later step fails. Writing then makes or replaces the one file that the path leads to, and that file is what is
read there afterwards.
-/
namespace CollectionGlue.FileTree

/-- Nothing has changed but that missing directories have been made, and these only at the given places. -/
structure GrownWithin (places : List Location) (before after : FileTree) : Prop where
  workingDirectory : after.workingDirectory = before.workingDirectory
  node : ∀ location, after.node? location = before.node? location ∨
    (location ∈ places ∧ before.node? location = none ∧ after.node? location = some .directory)

namespace GrownWithin

variable {places : List Location} {before middle after : FileTree}

theorem refl (places : List Location) (t : FileTree) : GrownWithin places t t := ⟨rfl, fun _ => .inl rfl⟩

theorem trans (h : GrownWithin places before middle) (h' : GrownWithin places middle after) :
    GrownWithin places before after := by
  refine ⟨h'.workingDirectory.trans h.workingDirectory, fun location => ?_⟩
  rcases h'.node location with same | ⟨mem, missing, made⟩
  · rw [same]
    exact h.node location
  · rcases h.node location with same | ⟨-, -, stood⟩
    · exact .inr ⟨mem, same ▸ missing, made⟩
    · rw [stood] at missing
      cases missing

private theorem keepsDirectories (h : GrownWithin places before after) : KeepsDirectories before after := by
  refine ⟨h.workingDirectory, fun location stands => ?_⟩
  rcases h.node location with same | ⟨-, -, made⟩
  · rwa [same]
  · exact made

theorem file_iff (h : GrownWithin places before after) {location : Location} {content : ByteArray} :
    after.node? location = some (.file content) ↔ before.node? location = some (.file content) := by
  rcases h.node location with same | ⟨-, missing, made⟩
  · rw [same]
  · simp [missing, made]

theorem made (h : GrownWithin places before after) {location : Location}
    (stands : after.node? location = some .directory) (new : before.node? location ≠ some .directory) :
    location ∈ places ∧ before.node? location = none := by
  rcases h.node location with same | ⟨mem, missing, -⟩
  · exact absurd (same ▸ stands) new
  · exact ⟨mem, missing⟩

end GrownWithin

theorem makeDirectory_eq_ok_iff {t made : FileTree} {path : String} :
    t.makeDirectory path = .ok made ↔ ∃ here name, t.target path = .ok (.named here name) ∧
      t.child? here name = .ok none ∧ made = t.put (here ++ [name]) .directory := by
  unfold makeDirectory
  rw [bind_eq_ok_iff]
  constructor
  · rintro ⟨place | ⟨here, name⟩, leads, h⟩
    · cases h
    · obtain ⟨_ | node, found, h⟩ := bind_eq_ok_iff.1 h
      · exact ⟨here, name, leads, found, (pure_eq_ok_iff.1 h).symm⟩
      · cases h
  · rintro ⟨here, name, leads, found, rfl⟩
    exact ⟨_, leads, bind_eq_ok_iff.2 ⟨_, found, rfl⟩⟩

/-- The way to a path and the path itself, as far as it can be made. -/
def reach (t : FileTree) (path : String) : List Location := entered (t.start path) (pathNames path)

private theorem makeDirectory_grown {t made : FileTree} {path : String} {places : List Location}
    (within : t.reach path ⊆ places) (h : t.makeDirectory path = .ok made) :
    GrownWithin places t made ∧ made.isDirectory path = true := by
  obtain ⟨here, name, leads, free, rfl⟩ := makeDirectory_eq_ok_iff.1 h
  obtain ⟨short, missing⟩ := child?_eq_ok_iff.1 free
  obtain ⟨ends, -, reached⟩ := target_named leads
  have below : here ++ [name] ≠ [] := by simp
  have mem : here ++ [name] ∈ places := by
    apply within
    rw [reach, reached, ends]
    simp
  have grown : GrownWithin places t (t.put (here ++ [name]) .directory) := by
    refine ⟨rfl, fun location => ?_⟩
    by_cases same : location = here ++ [name]
    · rw [same, node?_put_self t below]
      exact .inr ⟨mem, missing, rfl⟩
    · exact .inl (node?_put_of_ne t same _)
  refine ⟨grown, isDirectory_iff.2 (.inr ⟨here, name, grown.keepsDirectories.target leads, ?_⟩)⟩
  exact child?_eq_ok_iff.2 ⟨short, node?_put_self t below _⟩

private theorem reach_eq_of_grown {places : List Location} {before after : FileTree}
    (h : GrownWithin places before after) (path : String) : after.reach path = before.reach path := by
  rw [reach, reach, h.keepsDirectories.start]

/-- Makes a directory where none stands yet. -/
def ensureDirectory (t : FileTree) (path : String) : FileTree × Option SystemFault :=
  match t.makeDirectory path with
  | .ok made => (made, none)
  | .error fault => (t, if t.isDirectory path then none else some fault)

/-- Where the directory is not there, and neither is the one it stands in, that one is made first. -/
theorem makeDirectories_of_notFound {t : FileTree} {path : String} (outer : List String)
    (missing : t.makeDirectory path = .error .notFound) :
    t.makeDirectories (path :: outer) =
      match t.makeDirectories outer with
      | (made, some fault) => (made, some fault)
      | (made, none) => made.ensureDirectory path := by
  rw [makeDirectories_cons, missing]
  rcases t.makeDirectories outer with ⟨made, _ | fault⟩
  · cases tried : made.makeDirectory path <;> simp only [ensureDirectory, tried]
  · rfl

private theorem makeDirectories_of_ne {t : FileTree} {path : String} (outer : List String)
    (found : t.makeDirectory path ≠ .error .notFound) :
    t.makeDirectories (path :: outer) = t.ensureDirectory path := by
  rw [makeDirectories_cons, ensureDirectory]
  cases tried : t.makeDirectory path with
  | ok made => rfl
  | error fault =>
    cases fault with
    | notFound => exact absurd tried found
    | _ => rfl

private theorem ensureDirectory_grown {t made : FileTree} {fault : Option SystemFault} {path : String}
    {places : List Location} (within : t.reach path ⊆ places) (h : t.ensureDirectory path = (made, fault)) :
    GrownWithin places t made ∧ (fault = none → made.isDirectory path = true) := by
  unfold ensureDirectory at h
  split at h
  case h_1 after done =>
    cases h
    have grown := makeDirectory_grown within done
    exact ⟨grown.1, fun _ => grown.2⟩
  case h_2 reason failed =>
    cases h
    refine ⟨.refl places t, fun no_fault => ?_⟩
    by_contra missing
    simp [missing] at no_fault

/-- Whatever comes of it, making directories that stand in each other only makes missing ones on the way. If it
succeeds the first of them stands. -/
theorem makeDirectories_grown {t made : FileTree} {fault : Option SystemFault} {paths : List String}
    {places : List Location} (within : ∀ path ∈ paths, t.reach path ⊆ places)
    (h : t.makeDirectories paths = (made, fault)) :
    GrownWithin places t made ∧ (fault = none → ∀ path ∈ paths.head?, made.isDirectory path = true) := by
  induction paths generalizing t made fault with
  | nil =>
    rw [makeDirectories_nil] at h
    cases h
    exact ⟨.refl places t, fun _ path mem => by cases mem⟩
  | cons path outer ih =>
    rw [List.forall_mem_cons] at within
    simp only [List.head?_cons, Option.mem_some_iff, forall_eq']
    -- The outer ones are made in the first case only, and then this one is tried again in what they have left.
    by_cases missing : t.makeDirectory path = .error .notFound
    · rw [makeDirectories_of_notFound outer missing] at h
      rcases outward : t.makeDirectories outer with ⟨middle, trouble⟩
      obtain ⟨grown, -⟩ := ih within.2 outward
      rw [outward] at h
      cases trouble with
      | some trouble =>
        cases h
        exact ⟨grown, fun no_fault => by cases no_fault⟩
      | none =>
        obtain ⟨grown', stands⟩ := ensureDirectory_grown (reach_eq_of_grown grown path ▸ within.1) h
        exact ⟨grown.trans grown', stands⟩
    · rw [makeDirectories_of_ne outer missing] at h
      exact ensureDirectory_grown within.1 h

private theorem makeDirectories_standing {t : FileTree} {path : String} (outer : List String)
    (stands : t.isDirectory path = true) : t.makeDirectories (path :: outer) = (t, none) := by
  have tried : t.makeDirectory path = .error .alreadyExists := by
    rcases isDirectory_iff.1 stands with ⟨location, leads⟩ | ⟨here, name, leads, found⟩
    · simp [makeDirectory, leads, bind, Except.bind]
    · simp [makeDirectory, leads, found, bind, Except.bind]
  rw [makeDirectories_of_ne outer (by simp [tried]), ensureDirectory, tried]
  simp [stands]

/-- The directories above a path are on the way to it. -/
theorem reach_subset_wayTo (t : FileTree) {path above : String} (mem : above ∈ directoriesAbove path) :
    t.reach above ⊆ t.wayTo path := by
  obtain ⟨absolute, names⟩ := directoriesAbove_spec mem
  rw [reach, wayTo, start, start, absolute]
  exact entered_subset_of_prefix names

/-- A path that leads to a name that a file may have. -/
def opensFile (t : FileTree) (path : String) : Prop :=
  ∃ here name, t.target path = .ok (.named here name) ∧ endsInSlash path = false ∧
    name.utf8ByteSize ≤ longestName

theorem KeepsDirectories.opensFile {before after : FileTree} (h : KeepsDirectories before after) {path : String}
    (opens : before.opensFile path) : after.opensFile path := by
  obtain ⟨here, name, leads, form⟩ := opens
  exact ⟨here, name, h.target leads, form⟩

private theorem destination_ne_root {t : FileTree} {path : String} (opens : t.opensFile path) :
    t.destination path ≠ [] := by
  obtain ⟨here, name, leads, -⟩ := opens
  rw [← (target_named leads).1]
  simp

private theorem wayTo_stands {t : FileTree} {path : String} (opens : t.opensFile path) :
    ∀ location ∈ t.wayTo path, t.node? location = some .directory := by
  obtain ⟨here, name, leads, -⟩ := opens
  exact (target_named leads).2.1

private theorem opensFile_of_named {t : FileTree} {path name : String} {here : Location}
    (leads : t.target path = .ok (.named here name)) :
    t.opensFile path ↔ endsInSlash path = false ∧ name.utf8ByteSize ≤ longestName := by
  constructor
  · rintro ⟨there, other, leads', form⟩
    cases leads.symm.trans leads'
    exact form
  · exact fun form => ⟨here, name, leads, form⟩

private theorem not_opensFile {t : FileTree} {path : String} (h : ∀ here name, t.target path ≠ .ok (.named here name)) :
    ¬t.opensFile path := by
  rintro ⟨here, name, leads, -⟩
  exact h here name leads

theorem writeFile_eq_ok_iff {t written : FileTree} {path : String} {content : ByteArray} :
    t.writeFile path content = .ok written ↔ t.opensFile path ∧
      t.node? (t.destination path) ≠ some .directory ∧
      written = t.put (t.destination path) (.file content) := by
  rcases leads : t.target path with fault | place | ⟨here, name⟩
  case error => simp [writeFile, leads, bind, Except.bind, not_opensFile]
  case ok.directory => simp [writeFile, leads, bind, Except.bind, not_opensFile]
  case ok.named =>
    rw [opensFile_of_named leads, ← (target_named leads).1]
    by_cases slash : endsInSlash path = true
    · simp [writeFile, leads, bind, Except.bind, slash]
    by_cases short : name.utf8ByteSize ≤ longestName
    · rcases node : t.node? (here ++ [name]) with _ | _ | old <;>
        simp [writeFile, leads, bind, Except.bind, slash, child?, not_lt.2 short, short, node, pure, Except.pure,
          eq_comm]
    · simp [writeFile, leads, bind, Except.bind, slash, child?, not_le.1 short, short]

theorem readFile_eq_ok_iff {t : FileTree} {path : String} {content : ByteArray} :
    t.readFile path = .ok content ↔ t.opensFile path ∧
      t.node? (t.destination path) = some (.file content) := by
  rcases leads : t.target path with fault | place | ⟨here, name⟩
  case error => simp [readFile, leads, bind, Except.bind, not_opensFile]
  case ok.directory => simp [readFile, leads, bind, Except.bind, not_opensFile]
  case ok.named =>
    rw [opensFile_of_named leads, ← (target_named leads).1]
    by_cases short : name.utf8ByteSize ≤ longestName
    · rcases node : t.node? (here ++ [name]) with _ | _ | old <;> cases slash : endsInSlash path <;>
        simp [readFile, leads, bind, Except.bind, slash, child?, not_lt.2 short, short, node, pure, Except.pure]
    · simp [readFile, leads, bind, Except.bind, child?, not_le.1 short, short]

theorem readText_of_file {t : FileTree} {path text : String} (opens : t.opensFile path)
    (stands : t.node? (t.destination path) = some (.file text.toUTF8)) : t.readText path = .ok text := by
  have content : t.readFile path = .ok text.toUTF8 := readFile_eq_ok_iff.2 ⟨opens, stands⟩
  have decoded : String.fromUTF8? text.toUTF8 = some text := by
    simpa [String.fromUTF8?, String.fromUTF8] using text.isValidUTF8
  simp only [readText, content, bind, Except.bind, decoded]
  rfl

/-- A delivery fails over a directory above the path or over the file itself, or it does both steps. -/
theorem deliver_cases (t : FileTree) (path text : String) :
    ∃ made fault, t.makeDirectories (directoriesAbove path) = (made, fault) ∧
      ((∃ cause, fault = some cause ∧ t.deliver path text =
          (made, .error (.creatingDirectory ((directoriesAbove path).head?.getD "") cause))) ∨
        (∃ cause, fault = none ∧ made.writeFile path text.toUTF8 = .error cause ∧
          t.deliver path text = (made, .error (.writing path cause))) ∨
        ∃ written, fault = none ∧ made.writeFile path text.toUTF8 = .ok written ∧
          t.deliver path text = (written, .ok ())) := by
  rcases above : t.makeDirectories (directoriesAbove path) with ⟨made, _ | cause⟩
  · refine ⟨made, none, rfl, .inr ?_⟩
    rcases outcome : made.writeFile path text.toUTF8 with cause | written
    · exact .inl ⟨cause, rfl, rfl, by simp only [deliver_eq, above, outcome]⟩
    · exact .inr ⟨written, rfl, rfl, by simp only [deliver_eq, above, outcome]⟩
  · exact ⟨made, some cause, rfl, .inl ⟨cause, rfl, by simp only [deliver_eq, above]⟩⟩

theorem makeDirectories_above {t made : FileTree} {path : String} {fault : Option SystemFault}
    (h : t.makeDirectories (directoriesAbove path) = (made, fault)) :
    GrownWithin (t.wayTo path) t made ∧
      (fault = none → ∀ above ∈ (directoriesAbove path).head?, made.isDirectory above = true) :=
  makeDirectories_grown (fun _ => t.reach_subset_wayTo) h

/-- The path holds the text, the missing directories on the way to it have been made, and nothing else has
changed. -/
structure Delivered (before : FileTree) (path text : String) (after : FileTree) : Prop where
  reads : after.readText path = .ok text
  workingDirectory : after.workingDirectory = before.workingDirectory
  other_files : ∀ location, location ≠ before.destination path → ∀ content,
    after.node? location = some (.file content) ↔ before.node? location = some (.file content)
  made_directories : ∀ location,
    after.node? location = some .directory ∧ before.node? location ≠ some .directory ↔
      location ∈ before.wayTo path ∧ before.node? location = none
  kept_directories : ∀ location, before.node? location = some .directory →
    after.node? location = some .directory

private theorem delivered_of_writeFile {before made after : FileTree} {path text : String}
    (grown : GrownWithin (before.wayTo path) before made)
    (written : made.writeFile path text.toUTF8 = .ok after) : Delivered before path text after := by
  obtain ⟨opens, free, rfl⟩ := writeFile_eq_ok_iff.1 written
  have keeps := grown.keepsDirectories
  have put_keeps := made.keepsDirectories_put (.file text.toUTF8) free
  have below := destination_ne_root opens
  refine ⟨?_, grown.workingDirectory, ?_, ?_, ?_⟩
  · apply readText_of_file (put_keeps.opensFile opens)
    rw [put_keeps.destination, node?_put_self made below]
  · intro location apart content
    rw [node?_put_of_ne made (keeps.destination path ▸ apart)]
    exact grown.file_iff
  · intro location
    constructor
    · rintro ⟨stands, new⟩
      have apart : location ≠ made.destination path := by
        rintro rfl
        rw [node?_put_self made below] at stands
        cases stands
      exact grown.made (node?_put_of_ne made apart _ ▸ stands) new
    · rintro ⟨mem, missing⟩
      refine ⟨put_keeps.directories location ?_, by simp [missing]⟩
      exact wayTo_stands opens location (keeps.wayTo path ▸ mem)
  · exact fun location stands => put_keeps.directories location (keeps.directories location stands)

private theorem exists_made_of_deliver {before after : FileTree} {path text : String}
    (h : before.deliver path text = (after, .ok ())) :
    ∃ made, before.makeDirectories (directoriesAbove path) = (made, none) ∧
      made.writeFile path text.toUTF8 = .ok after := by
  obtain ⟨made, fault, above, ⟨_, -, outcome⟩ | ⟨_, -, -, outcome⟩ | ⟨written, rfl, wrote, outcome⟩⟩ :=
    before.deliver_cases path text
  · cases outcome.symm.trans h
  · cases outcome.symm.trans h
  · cases outcome.symm.trans h
    exact ⟨made, above, wrote⟩

theorem delivered_of_deliver {before after : FileTree} {path text : String}
    (h : before.deliver path text = (after, .ok ())) : Delivered before path text after := by
  obtain ⟨made, above, wrote⟩ := exists_made_of_deliver h
  exact delivered_of_writeFile (makeDirectories_above above).1 wrote

/-- Delivering the same text again succeeds, and every node stays what it is. -/
theorem deliver_again {before after : FileTree} {path text : String}
    (h : before.deliver path text = (after, .ok ())) :
    ∃ again, after.deliver path text = (again, .ok ()) ∧
      ∀ location, again.node? location = after.node? location := by
  obtain ⟨made, above, written⟩ := exists_made_of_deliver h
  obtain ⟨-, standing⟩ := makeDirectories_above above
  obtain ⟨opens, free, rfl⟩ := writeFile_eq_ok_iff.1 written
  have keeps := made.keepsDirectories_put (.file text.toUTF8) free
  have below := destination_ne_root opens
  generalize after_eq : made.put (made.destination path) (.file text.toUTF8) = after at keeps
  -- The nearest directory stands since the first delivery, so those further out are not looked at again.
  have nothing_made : after.makeDirectories (directoriesAbove path) = (after, none) := by
    cases dirs : directoriesAbove path with
    | nil => exact makeDirectories_nil after
    | cons nearest outer =>
      apply makeDirectories_standing
      exact keeps.isDirectory (standing rfl nearest (by simp [dirs]))
  have stands : after.node? (after.destination path) = some (.file text.toUTF8) := by
    rw [keeps.destination, ← after_eq, node?_put_self made below]
  have rewritten : after.writeFile path text.toUTF8 =
      .ok (after.put (after.destination path) (.file text.toUTF8)) :=
    writeFile_eq_ok_iff.2 ⟨keeps.opensFile opens, by simp [stands], rfl⟩
  refine ⟨after.put (after.destination path) (.file text.toUTF8),
    by simp only [deliver_eq, nothing_made, rewritten], fun location => ?_⟩
  by_cases same : location = after.destination path
  · rw [same, stands, node?_put_self]
    rw [keeps.destination]
    exact below
  · rw [node?_put_of_ne after same]

end CollectionGlue.FileTree
