import CollectionGlue.FileTrees
import Mathlib.Data.List.Infix

/-! # The names in a path and in the paths above it

A path is a list of names, parted by slashes of which any number may stand together. The directories above a
path are written as beginnings of its text, so their names are beginnings of its names.
-/
namespace CollectionGlue

/-- The names in a path, dots included. -/
def pathNames (path : String) : List String := (pathSegments path).filter (· ≠ "")

theorem not_mem_of_mem_splitOn {α : Type} [BEq α] [LawfulBEq α] {sep : α} {text part : List α}
    (mem : part ∈ text.splitOn sep) : sep ∉ part := by
  induction text generalizing part with
  | nil => simp_all
  | cons c text ih =>
    obtain ⟨first, later, cut⟩ := List.exists_cons_of_ne_nil (List.splitOn_ne_nil sep text)
    rw [cut] at ih
    rw [List.splitOn_cons_eq_if_modifyHead, cut] at mem
    split at mem
    case isTrue =>
      rcases List.mem_cons.1 mem with rfl | mem
      · exact List.not_mem_nil
      · exact ih mem
    case isFalse other =>
      rcases List.mem_cons.1 mem with rfl | mem
      · intro found
        rcases List.mem_cons.1 found with rfl | found
        · exact other BEq.rfl
        · exact ih List.mem_cons_self found
      · exact ih (List.mem_cons_of_mem first mem)

/-- A segment of a path: a text without a slash. -/
def IsSegment (segment : String) : Prop := '/' ∉ segment.toList

private theorem isSegment_of_mem {path segment : String} (mem : segment ∈ pathSegments path) : IsSegment segment := by
  obtain ⟨part, cut, rfl⟩ := List.mem_map.1 mem
  simpa [IsSegment] using not_mem_of_mem_splitOn cut

private theorem pathSegments_append_slash (path rest : String) :
    pathSegments (path ++ "/" ++ rest) = pathSegments path ++ pathSegments rest := by
  have texts : (path ++ "/" ++ rest).toList = path.toList ++ '/' :: rest.toList := by simp
  have cut : (path.toList ++ '/' :: rest.toList).splitOn '/' = path.toList.splitOn '/' ++ rest.toList.splitOn '/' :=
    List.splitOnP_append_cons _ _ rfl
  rw [pathSegments, texts, cut, List.map_append]
  rfl

private theorem pathSegments_of_isSegment {segment : String} (h : IsSegment segment) :
    pathSegments segment = [segment] := by
  have whole : segment.toList.splitOn '/' = [segment.toList] := by
    apply List.splitOnP_eq_singleton
    intro c mem
    simpa using fun same : c = '/' => h (same ▸ mem)
  rw [pathSegments, whole, List.map_singleton, String.ofList_toList]

private theorem pathNames_append_slash (path rest : String) :
    pathNames (path ++ "/" ++ rest) = pathNames path ++ pathNames rest := by
  rw [pathNames, pathSegments_append_slash, List.filter_append]
  rfl

private theorem pathNames_of_isSegment {segment : String} (h : IsSegment segment) :
    pathNames segment = [segment].filter (· ≠ "") := by
  rw [pathNames, pathSegments_of_isSegment h]

private theorem isAbsolutePath_append_slash (path rest : String) :
    isAbsolutePath (path ++ "/" ++ rest) = isAbsolutePath (path ++ "/") := by
  cases chars : path.toList <;> simp [isAbsolutePath, chars]

private theorem exists_name_of_segmentTexts {before : String} {segments : List String}
    (some_text : segmentTexts before segments ≠ []) : segments.filter (· ≠ "") ≠ [] := by
  induction segments generalizing before with
  | nil => exact absurd rfl some_text
  | cons segment rest ih =>
    by_cases empty : segment = ""
    · simp only [segmentTexts, empty, true_or, ↓reduceIte] at some_text
      simpa [empty] using ih some_text
    · simp [empty]

/-- A text in front of those that lead further has fewer names than the whole path. -/
theorem prefix_of_dropLast_cons {here : String} {rest : List String}
    (later : ∀ text ∈ (segmentTexts (here ++ "/") rest).dropLast,
      pathNames text <+: (pathNames here ++ rest.filter (· ≠ "")).dropLast) :
    ∀ text ∈ (here :: segmentTexts (here ++ "/") rest).dropLast,
      pathNames text <+: (pathNames here ++ rest.filter (· ≠ "")).dropLast := by
  intro text mem
  by_cases last : segmentTexts (here ++ "/") rest = []
  · simp [last] at mem
  · rw [List.dropLast_cons_of_ne_nil last] at mem
    rcases List.mem_cons.1 mem with rfl | mem
    · rw [List.dropLast_append_of_ne_nil (exists_name_of_segmentTexts last)]
      exact List.prefix_append _ _
    · exact later text mem

/-- A text that leads to a segment is written like the path up to there. So its names begin the names of the
path, and they are all of them only if it comes last. -/
theorem segmentTexts_spec (path : String) {segments : List String}
    (parts : ∀ segment ∈ segments, IsSegment segment) :
    (∀ text ∈ segmentTexts (path ++ "/") segments, isAbsolutePath text = isAbsolutePath (path ++ "/")) ∧
      ∀ text ∈ (segmentTexts (path ++ "/") segments).dropLast,
        pathNames text <+: (pathNames path ++ segments.filter (· ≠ "")).dropLast := by
  induction segments generalizing path with
  | nil => exact ⟨fun text mem => absurd mem List.not_mem_nil, fun text mem => absurd mem List.not_mem_nil⟩
  | cons segment rest ih =>
    rw [List.forall_mem_cons] at parts
    have names : pathNames path ++ (segment :: rest).filter (· ≠ "") =
        pathNames (path ++ "/" ++ segment) ++ rest.filter (· ≠ "") := by
      rw [pathNames_append_slash, pathNames_of_isSegment parts.1, List.append_assoc, ← List.filter_append,
        List.singleton_append]
    have start : isAbsolutePath (path ++ "/" ++ segment ++ "/") = isAbsolutePath (path ++ "/") := by
      rw [String.append_assoc, isAbsolutePath_append_slash]
    obtain ⟨absolute, above⟩ := ih (path ++ "/" ++ segment) parts.2
    rw [start] at absolute
    rw [segmentTexts, names]
    split
    case isTrue => exact ⟨absolute, above⟩
    case isFalse =>
      exact ⟨List.forall_mem_cons.2 ⟨isAbsolutePath_append_slash path segment, absolute⟩,
        prefix_of_dropLast_cons above⟩

private theorem exists_eq_append_slash {path first next : String} {rest : List String}
    (cut : pathSegments path = first :: next :: rest) : ∃ tail, path = first ++ "/" ++ tail := by
  have whole : ['/'].intercalate (path.toList.splitOn '/') = path.toList := List.intercalate_splitOn '/'
  obtain ⟨part, parts, split, rfl, later⟩ := List.map_eq_cons_iff.1 cut
  obtain ⟨part', parts', rfl, -, -⟩ := List.map_eq_cons_iff.1 later
  rw [split, List.intercalate_cons_cons] at whole
  refine ⟨String.ofList (['/'].intercalate (part' :: parts')), String.toList_inj.1 ?_⟩
  simp [← whole]

private theorem isAbsolutePath_closed {path : String} (some_text : path ≠ "") :
    isAbsolutePath (path ++ "/") = isAbsolutePath path := by
  obtain ⟨c, chars, text⟩ := List.exists_cons_of_ne_nil (mt String.toList_eq_nil_iff.1 some_text)
  simp [isAbsolutePath, text]

/-- The directories above a path are named by beginnings of its names, and start where it starts. -/
theorem directoriesAbove_spec {path above : String} (mem : above ∈ directoriesAbove path) :
    isAbsolutePath above = isAbsolutePath path ∧ pathNames above <+: (pathNames path).dropLast := by
  have parts : ∀ segment ∈ pathSegments path, IsSegment segment := fun _ => isSegment_of_mem
  rw [directoriesAbove, List.mem_reverse, pathTexts] at mem
  rcases cut : pathSegments path with _ | ⟨first, _ | ⟨next, rest⟩⟩
  case nil => simp [cut] at mem
  case cons.nil => by_cases empty : first = "" <;> simp [cut, segmentTexts, empty] at mem
  case cons.cons =>
    rw [cut, List.forall_mem_cons] at parts
    obtain ⟨absolute, below⟩ := segmentTexts_spec first parts.2
    have names : pathNames path = pathNames first ++ (next :: rest).filter (· ≠ "") := by
      rw [pathNames_of_isSegment parts.1, ← List.filter_append, List.singleton_append, ← cut, pathNames]
    have start : isAbsolutePath path = isAbsolutePath (first ++ "/") := by
      obtain ⟨tail, written⟩ := exists_eq_append_slash cut
      rw [written, isAbsolutePath_append_slash]
    rw [names, start]
    -- An absolute path has an empty first segment, which is no directory of its own.
    by_cases empty : first = ""
    · simp only [cut, empty, ↓reduceIte, List.nil_append] at mem
      subst empty
      exact ⟨absolute above (List.mem_of_mem_dropLast mem), below above mem⟩
    · simp only [cut, empty, ↓reduceIte, List.singleton_append] at mem
      refine ⟨?_, prefix_of_dropLast_cons below above mem⟩
      rcases List.mem_cons.1 (List.mem_of_mem_dropLast mem) with rfl | mem
      · exact (isAbsolutePath_closed empty).symm
      · exact absolute above mem

end CollectionGlue
