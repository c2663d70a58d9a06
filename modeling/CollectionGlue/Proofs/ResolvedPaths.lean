import CollectionGlue.SuccessfulSteps
import CollectionGlue.Proofs.PathTexts

/-! # Where a path leads

Names and dots alone say where a path leads and which directories it enters. The tree only says whether it may
go there: each of these directories must stand. So a path leads to the same place in every tree that has at
least the directories of the first.
-/
namespace CollectionGlue.FileTree

private theorem lookup_filter_of_ne {nodes : List (Location × Node)} {location other : Location}
    (apart : other ≠ location) :
    (nodes.filter fun entry => entry.1 != location).lookup other = nodes.lookup other := by
  induction nodes with
  | nil => rfl
  | cons entry nodes ih =>
    obtain ⟨place, node⟩ := entry
    by_cases dropped : place = location
    · have missed : (other == location) = false := beq_false_of_ne apart
      subst dropped
      simp only [bne_self_eq_false, Bool.false_eq_true, not_false_eq_true, List.filter_cons_of_neg, ih,
        List.lookup_cons, missed]
    · simp only [bne_iff_ne, ne_eq, dropped, not_false_eq_true, List.filter_cons_of_pos, List.lookup_cons, ih]

theorem node?_put_self (t : FileTree) {location : Location} (below : location ≠ []) (node : Node) :
    (t.put location node).node? location = some node := by
  simp [node?, put, below]

theorem node?_put_of_ne (t : FileTree) {location other : Location} (apart : other ≠ location) (node : Node) :
    (t.put location node).node? other = t.node? other := by
  have missed : (other == location) = false := by simpa using apart
  simp [node?, put, List.lookup_cons, missed, lookup_filter_of_ne apart]

theorem child?_eq_ok_iff {t : FileTree} {here : Location} {name : String} {node : Option Node} :
    t.child? here name = .ok node ↔ name.utf8ByteSize ≤ longestName ∧ t.node? (here ++ [name]) = node := by
  unfold child?
  split
  · simp; omega
  · simp; omega

/-- Where a walk stands behind a name. -/
def behind (here : Location) (name : String) : Location :=
  if name = "." then here else if name = ".." then here.dropLast else here ++ [name]

/-- The directories that a walk enters by their names. -/
def entered (here : Location) : List String → List Location
  | [] => []
  | name :: names =>
    if name = "." ∨ name = ".." then entered (behind here name) names
    else behind here name :: entered (behind here name) names

private theorem entered_append (here : Location) (names more : List String) :
    entered here (names ++ more) = entered here names ++ entered (names.foldl behind here) more := by
  induction names generalizing here with
  | nil => rfl
  | cons name names ih =>
    rw [List.cons_append, entered, entered, ih, List.foldl_cons]
    split <;> rfl

theorem entered_subset_of_prefix {here : Location} {names more : List String} (h : names <+: more) :
    entered here names ⊆ entered here more := by
  obtain ⟨rest, rfl⟩ := h
  rw [entered_append]
  exact List.subset_append_left _ _

/-- One name, dots or not, leads on exactly if it is not too long and what it enters is a directory. -/
theorem enter_eq_ok_iff {t : FileTree} {here there : Location} {name : String} :
    t.enter here name = .ok there ↔ there = behind here name ∧ name.utf8ByteSize ≤ longestName ∧
      ∀ location ∈ entered here [name], t.node? location = some .directory := by
  by_cases dot : name = "."
  · have short : String.utf8ByteSize "." ≤ longestName := by decide
    simp [enter, behind, entered, dot, short, eq_comm]
  by_cases dots : name = ".."
  · have short : String.utf8ByteSize ".." ≤ longestName := by decide
    simp [enter, behind, entered, dots, short, eq_comm]
  have found : t.enter here name = .ok there ↔
      t.child? here name = .ok (some .directory) ∧ there = here ++ [name] := by
    simp only [enter, dot, dots, ↓reduceIte]
    rcases t.child? here name with fault | _ | _ | content <;> simp [eq_comm]
  simp [found, child?_eq_ok_iff, behind, entered, dot, dots, and_comm]

/-- A walk succeeds exactly if all directories that it enters stand, and then it ends where its names say. -/
theorem walk_eq_ok_iff {t : FileTree} {here there : Location} {names : List String} :
    t.walk here names = .ok there ↔ there = names.foldl behind here ∧
      (∀ name ∈ names, name.utf8ByteSize ≤ longestName) ∧
      ∀ location ∈ entered here names, t.node? location = some .directory := by
  induction names generalizing here with
  | nil => simp [walk, entered, eq_comm]
  | cons name names ih =>
    have cut : entered here (name :: names) = entered here [name] ++ entered (behind here name) names :=
      entered_append here [name] names
    simp only [walk, bind_eq_ok_iff, enter_eq_ok_iff, ih, cut, List.foldl_cons, List.forall_mem_cons,
      List.forall_mem_append]
    constructor
    · rintro ⟨_, ⟨rfl, short, first⟩, ends, later_short, later⟩
      exact ⟨ends, ⟨short, later_short⟩, first, later⟩
    · rintro ⟨ends, ⟨short, later_short⟩, first, later⟩
      exact ⟨_, ⟨rfl, short, first⟩, ends, later_short, later⟩

def start (t : FileTree) (path : String) : Location := if isAbsolutePath path then [] else t.workingDirectory

/-- The directories that a path leads through by name. -/
def wayTo (t : FileTree) (path : String) : List Location := entered (t.start path) (pathNames path).dropLast

/-- Where the names of a path lead. -/
def destination (t : FileTree) (path : String) : Location := (pathNames path).foldl behind (t.start path)

/-- What the system asks of the text of a path. -/
def isLegible (path : String) : Prop :=
  '\x00' ∉ path.toList ∧ path ≠ "" ∧ path.utf8ByteSize ≤ longestPath

/-- The target behind the last name of a path. -/
def Target.last (here : Location) (name : String) : Target :=
  if name = "." then .directory here else if name = ".." then .directory here.dropLast else .named here name

private theorem target_of_isLegible (t : FileTree) {path : String} (legible : isLegible path) :
    t.target path = match (pathNames path).getLast? with
      | none => .ok (.directory (t.start path))
      | some name => (t.walk (t.start path) (pathNames path).dropLast).map (Target.last · name) := by
  obtain ⟨nul, some_text, short⟩ := legible
  rw [target, if_neg nul, if_neg some_text, if_neg (not_lt.2 short)]
  change (match (pathNames path).getLast? with | none => _ | some last => _) = _
  cases (pathNames path).getLast? with
  | none => rfl
  | some name =>
    change (t.walk (t.start path) (pathNames path).dropLast >>= _) = _
    cases t.walk (t.start path) (pathNames path).dropLast with
    | error fault => rfl
    | ok here =>
      simp only [bind, Except.bind, Except.map, Target.last]
      split
      · rfl
      · split <;> rfl

private theorem isLegible_of_target {t : FileTree} {path : String} {found : Target} (h : t.target path = .ok found) :
    isLegible path := by
  unfold target at h
  split at h
  · cases h
  split at h
  · cases h
  split at h
  · cases h
  exact ⟨‹_›, ‹_›, not_lt.1 ‹_›⟩

/-- A path without names leads to where it starts, and any other one to the target behind its last name, if the
walk along those before it succeeds. -/
theorem target_eq_ok_iff {t : FileTree} {path : String} {found : Target} :
    t.target path = .ok found ↔ isLegible path ∧
      ((pathNames path = [] ∧ found = .directory (t.start path)) ∨
        ∃ names name here, pathNames path = names ++ [name] ∧ t.walk (t.start path) names = .ok here ∧
          found = .last here name) := by
  constructor
  · intro h
    have legible := isLegible_of_target h
    rw [target_of_isLegible t legible] at h
    refine ⟨legible, ?_⟩
    rcases List.eq_nil_or_concat' (pathNames path) with no_name | ⟨names, name, cut⟩
    · rw [no_name] at h
      cases h
      exact .inl ⟨no_name, rfl⟩
    · rw [cut, List.getLast?_concat, List.dropLast_concat] at h
      obtain ⟨here, walked, rfl⟩ := map_eq_ok_iff.1 h
      exact .inr ⟨names, name, here, cut, walked, rfl⟩
  · rintro ⟨legible, ⟨no_name, rfl⟩ | ⟨names, name, here, cut, walked, rfl⟩⟩
    · rw [target_of_isLegible t legible, no_name]
      rfl
    · rw [target_of_isLegible t legible, cut, List.getLast?_concat, List.dropLast_concat]
      exact map_eq_ok_iff.2 ⟨here, walked, rfl⟩

theorem Target.last_eq_named_iff {here there : Location} {last name : String} :
    Target.last here last = .named there name ↔ last ≠ "." ∧ last ≠ ".." ∧ here = there ∧ last = name := by
  unfold Target.last
  split
  · simp_all
  · split <;> simp_all

/-- A path that leads to a name in a directory leads to its destination, through directories that stand. -/
theorem target_named {t : FileTree} {path name : String} {here : Location}
    (h : t.target path = .ok (.named here name)) :
    here ++ [name] = t.destination path ∧ (∀ location ∈ t.wayTo path, t.node? location = some .directory) ∧
      entered (t.start path) (pathNames path) = t.wayTo path ++ [t.destination path] := by
  obtain ⟨-, ⟨-, found⟩ | ⟨names, last, there, cut, walked, found⟩⟩ := target_eq_ok_iff.1 h
  · cases found
  · obtain ⟨dot, dots, rfl, rfl⟩ := Target.last_eq_named_iff.1 found.symm
    obtain ⟨rfl, -, stand⟩ := walk_eq_ok_iff.1 walked
    have last_step (place : Location) : behind place last = place ++ [last] := by simp [behind, dot, dots]
    have last_entered (place : Location) : entered place [last] = [place ++ [last]] := by
      simp [entered, dot, dots, last_step]
    have ends : t.destination path = names.foldl behind (t.start path) ++ [last] := by
      rw [destination, cut, List.foldl_append, List.foldl_cons, List.foldl_nil, last_step]
    have way : t.wayTo path = entered (t.start path) names := by rw [wayTo, cut, List.dropLast_concat]
    refine ⟨ends.symm, by rwa [way], ?_⟩
    rw [cut, entered_append, last_entered, way, ends]

/-- Each directory of the one tree is a directory of the other, and paths start at the same place. -/
structure KeepsDirectories (before after : FileTree) : Prop where
  workingDirectory : after.workingDirectory = before.workingDirectory
  directories : ∀ location, before.node? location = some .directory → after.node? location = some .directory

namespace KeepsDirectories

variable {before after : FileTree}

theorem start (h : KeepsDirectories before after) (path : String) : after.start path = before.start path := by
  rw [FileTree.start, FileTree.start, h.workingDirectory]

theorem wayTo (h : KeepsDirectories before after) (path : String) : after.wayTo path = before.wayTo path := by
  rw [FileTree.wayTo, FileTree.wayTo, h.start]

theorem destination (h : KeepsDirectories before after) (path : String) :
    after.destination path = before.destination path := by
  rw [FileTree.destination, FileTree.destination, h.start]

theorem walk (h : KeepsDirectories before after) {here there : Location} {names : List String}
    (walked : before.walk here names = .ok there) : after.walk here names = .ok there := by
  obtain ⟨ends, short, stand⟩ := walk_eq_ok_iff.1 walked
  exact walk_eq_ok_iff.2 ⟨ends, short, fun location mem => h.directories location (stand location mem)⟩

theorem target (h : KeepsDirectories before after) {path : String} {found : Target}
    (leads : before.target path = .ok found) : after.target path = .ok found := by
  obtain ⟨legible, ⟨no_name, rfl⟩ | ⟨names, name, here, cut, walked, rfl⟩⟩ := target_eq_ok_iff.1 leads
  · exact target_eq_ok_iff.2 ⟨legible, .inl ⟨no_name, by rw [h.start]⟩⟩
  · rw [← h.start] at walked
    exact target_eq_ok_iff.2 ⟨legible, .inr ⟨names, name, here, cut, h.walk walked, rfl⟩⟩

end KeepsDirectories

theorem isDirectory_iff {t : FileTree} {path : String} :
    t.isDirectory path = true ↔ (∃ location, t.target path = .ok (.directory location)) ∨
      ∃ here name, t.target path = .ok (.named here name) ∧ t.child? here name = .ok (some .directory) := by
  unfold isDirectory
  rcases t.target path with fault | place | ⟨here, name⟩
  · simp
  · simp
  · rcases found : t.child? here name with fault | _ | _ | content <;> simp [found]

theorem KeepsDirectories.isDirectory {before after : FileTree} (h : KeepsDirectories before after) {path : String}
    (is : before.isDirectory path = true) : after.isDirectory path = true := by
  rw [isDirectory_iff] at is ⊢
  rcases is with ⟨location, leads⟩ | ⟨here, name, leads, found⟩
  · exact .inl ⟨location, h.target leads⟩
  · obtain ⟨short, stands⟩ := child?_eq_ok_iff.1 found
    exact .inr ⟨here, name, h.target leads, child?_eq_ok_iff.2 ⟨short, h.directories _ stands⟩⟩

theorem keepsDirectories_put (t : FileTree) {location : Location} (node : Node)
    (free : t.node? location ≠ some .directory) : KeepsDirectories t (t.put location node) := by
  refine ⟨rfl, fun other stands => ?_⟩
  have apart : other ≠ location := fun same => free (same ▸ stands)
  rwa [node?_put_of_ne t apart]

end CollectionGlue.FileTree
