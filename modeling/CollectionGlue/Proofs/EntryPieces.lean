import CollectionGlue.Proofs.FirstFaults
import CollectionGlue.Proofs.PathTexts

/-! # Which entries are valid, told from the pieces of their strings

A stored spelling is cut at its spaces. Where none is stored the spaces of the spelling are the underscores of the
tag, so the tag is cut at its underscores; as no piece holds an underscore then, none of them can begin with one.
-/
namespace CollectionGlue

/-- A text that begins with an ASCII letter. -/
def OpensWithLetter (text : List Char) : Prop :=
  ∃ first rest, text = first :: rest ∧ (('A' ≤ first ∧ first ≤ 'Z') ∨ ('a' ≤ first ∧ first ≤ 'z'))

/-- What is asked of the spelling of an entry, which the tag supplies if none is stored. -/
def TypeEntry.SpelledInPieces (e : TypeEntry) : Prop :=
  match e.cType with
  | some spelling => ∀ piece ∈ spelling.toList.splitOn ' ', IdentifierText piece
  | none => ∀ piece ∈ e.tag.toList.splitOn '_', OpensWithLetter piece

def spacesToUnderscores (spelling : String) : String :=
  spelling.map fun c => if c == ' ' then '_' else c

/-- Words with one space between any two of them, and no space around them. -/
structure SinglySpaced (text : List Char) : Prop where
  front : ¬[' '] <+: text
  back : ¬[' '] <:+ text
  single : ¬[' ', ' '] <:+: text
  characters : ∀ c ∈ text, c = ' ' ∨ IdentifierPart c

section Cutting

variable {α : Type} [BEq α] [LawfulBEq α]

/-- Where one separator is put for another, a text is cut at the same places. -/
theorem splitOn_map_replaced {old new : α} {text : List α} (fresh : new ∉ text) :
    (text.map fun c => if c == old then new else c).splitOn new = text.splitOn old := by
  induction text with
  | nil => rfl
  | cons c text ih =>
    rw [List.mem_cons, not_or] at fresh
    obtain ⟨other, fresh⟩ := fresh
    rw [List.map_cons, List.splitOn_cons_eq_if_modifyHead, List.splitOn_cons_eq_if_modifyHead, ih fresh]
    by_cases sep : c = old
    · simp [sep]
    · simp [sep, Ne.symm other]

/-- Apart from the separator the pieces hold what the text holds. -/
theorem mem_iff_mem_splitOn {sep c : α} (other : c ≠ sep) (text : List α) :
    c ∈ text ↔ ∃ piece ∈ text.splitOn sep, c ∈ piece := by
  induction text with
  | nil => simp
  | cons d text ih =>
    obtain ⟨first, later, cut⟩ := List.exists_cons_of_ne_nil (List.splitOn_ne_nil sep text)
    rw [cut] at ih
    rw [List.mem_cons, List.splitOn_cons_eq_if_modifyHead, cut, ih]
    by_cases same : d = sep
    · simp [same, other]
    · simp [same, or_assoc]

end Cutting

private theorem typeSpelling_iff_pieces (text : List Char) :
    TypeSpelling text ↔ ∀ piece ∈ text.splitOn ' ', IdentifierText piece := by
  rw [← isTypeSpelling_iff, isTypeSpelling_iff_splitOn]

private theorem toList_underscoresToSpaces (tag : String) :
    (underscoresToSpaces tag).toList = tag.toList.map fun c => if c == '_' then ' ' else c := by
  simp [underscoresToSpaces]

/-- A piece of an identifier is an identifier if it begins with a letter. -/
theorem identifierText_piece_iff {tag piece : List Char} (identifier : IdentifierText tag)
    (mem : piece ∈ tag.splitOn '_') : IdentifierText piece ↔ OpensWithLetter piece := by
  have plain : '_' ∉ piece := not_mem_of_mem_splitOn mem
  have parts : ∀ c ∈ piece, IdentifierPart c := fun c found =>
    identifier.all_part c ((mem_iff_mem_splitOn (ne_of_mem_of_not_mem found plain) tag).2 ⟨piece, mem, found⟩)
  constructor
  · rintro ⟨first, rest, rfl, upper | lower | rfl, -⟩
    · exact ⟨first, rest, rfl, .inl upper⟩
    · exact ⟨first, rest, rfl, .inr lower⟩
    · exact absurd List.mem_cons_self plain
  · rintro ⟨first, rest, rfl, letter⟩
    exact ⟨first, rest, rfl, or_assoc.1 (.inl letter), (List.forall_mem_cons.1 parts).2⟩

private theorem typeSpelling_underscoresToSpaces {tag : String} (identifier : IdentifierText tag.toList) :
    TypeSpelling (underscoresToSpaces tag).toList ↔
      ∀ piece ∈ tag.toList.splitOn '_', OpensWithLetter piece := by
  rw [typeSpelling_iff_pieces, toList_underscoresToSpaces, splitOn_map_replaced identifier.space_not_mem]
  exact forall₂_congr fun piece mem => identifierText_piece_iff identifier mem

theorem TypeEntry.typeSpelling_iff {e : TypeEntry} (identifier : IdentifierText e.tag.toList) :
    TypeSpelling e.spelling.toList ↔ e.SpelledInPieces := by
  rw [TypeEntry.spelling, TypeEntry.SpelledInPieces]
  cases e.cType with
  | some spelling => exact typeSpelling_iff_pieces spelling.toList
  | none => exact typeSpelling_underscoresToSpaces identifier

private theorem spacesToUnderscores_underscoresToSpaces {tag : String} (identifier : IdentifierText tag.toList) :
    spacesToUnderscores (underscoresToSpaces tag) = tag := by
  have back : ∀ c ∈ tag.toList, (if (if c == '_' then ' ' else c) == ' ' then '_' else
      if c == '_' then ' ' else c) = c := by
    intro c mem
    have other : c ≠ ' ' := fun same => identifier.space_not_mem (same ▸ mem)
    by_cases underscore : c = '_'
    · simp [underscore]
    · simp [underscore, other]
  apply String.toList_inj.1
  rw [spacesToUnderscores, String.toList_map, toList_underscoresToSpaces, List.map_map]
  exact (List.map_congr_left back).trans (List.map_id _)

/-- A text that could be cut into an empty piece is no type spelling. -/
theorem TypeSpelling.nil_not_mem {before behind : List Char} (h : TypeSpelling (before ++ ' ' :: behind)) :
    [] ∉ before.splitOn ' ' ++ behind.splitOn ' ' := by
  rw [typeSpelling_iff_pieces, List.splitOn_append_cons_self] at h
  intro mem
  obtain ⟨first, rest, none, -⟩ := h [] mem
  cases none

private theorem TypeSpelling.singlySpaced {text : List Char} (h : TypeSpelling text) : SinglySpaced text where
  front := by
    rintro ⟨behind, rfl⟩
    have h : TypeSpelling ([] ++ ' ' :: behind) := h
    exact h.nil_not_mem (by simp)
  back := by
    rintro ⟨before, rfl⟩
    exact h.nil_not_mem (by simp)
  single := by
    rintro ⟨before, behind, rfl⟩
    rw [List.append_assoc] at h
    exact h.nil_not_mem (by simp [List.splitOn_cons_eq_if_modifyHead])
  characters := by
    intro c mem
    by_cases space : c = ' '
    · exact .inl space
    · obtain ⟨piece, among, found⟩ := (mem_iff_mem_splitOn space text).1 mem
      exact .inr (((typeSpelling_iff_pieces text).1 h piece among).all_part c found)

private theorem TypeEntry.isValid_iff_pieces (e : TypeEntry) :
    e.isValid = true ↔ IdentifierText e.tag.toList ∧ e.SpelledInPieces := by
  rw [TypeEntry.isValid_iff]
  constructor
  · exact fun valid => ⟨valid.identifier, (e.typeSpelling_iff valid.identifier).1 valid.spelling⟩
  · exact fun ⟨identifier, spelled⟩ => ⟨identifier, (e.typeSpelling_iff identifier).2 spelled⟩

theorem TypeEntry.rejection_alone_iff (e : TypeEntry) (fault : TableRejection) :
    entryRejection? [] e = some fault ↔
      (fault = .invalidTag e.tag ∧ ¬IdentifierText e.tag.toList) ∨
      (fault = .invalidSpelling e.tag e.spelling ∧ IdentifierText e.tag.toList ∧ ¬e.SpelledInPieces) := by
  have nothing_before : ∀ tag, tag ∈ [] ↔ ∃ a ∈ ([] : List TypeEntry), a.tag = tag := by simp
  rw [entryRejection?_eq_some_iff nothing_before]
  constructor
  · intro h
    cases h with
    | invalidTag tag => exact .inl ⟨rfl, tag⟩
    | invalidSpelling tag spelling => exact .inr ⟨rfl, tag, mt (e.typeSpelling_iff tag).2 spelling⟩
    | repeatedTag _ again => exact absurd again (by simp)
  · rintro (⟨rfl, tag⟩ | ⟨rfl, tag, spelling⟩)
    · exact .invalidTag tag
    · exact .invalidSpelling tag (mt (e.typeSpelling_iff tag).1 spelling)

private theorem TypeEntry.tag_of_spelling {e : TypeEntry} (valid : e.isValid = true) (default : e.cType = none) :
    spacesToUnderscores e.spelling = e.tag := by
  rw [TypeEntry.spelling, default]
  exact spacesToUnderscores_underscoresToSpaces (e.isValid_iff.1 valid).identifier

/-- An entry is valid if its tag is an identifier and its spelling has the right pieces, and else it is rejected for
the first of the two that fails. Then its spelling is singly spaced, and where the tag supplies it the tag can be told
from it. -/
theorem validation_by_pieces (e : TypeEntry) :
    (entryRejection? [] e = none ↔ e.isValid = true) ∧
    (e.isValid = true ↔ IdentifierText e.tag.toList ∧ e.SpelledInPieces) ∧
    (∀ fault, entryRejection? [] e = some fault ↔
      (fault = .invalidTag e.tag ∧ ¬IdentifierText e.tag.toList) ∨
      (fault = .invalidSpelling e.tag e.spelling ∧ IdentifierText e.tag.toList ∧ ¬e.SpelledInPieces)) ∧
    (e.isValid = true → SinglySpaced e.spelling.toList) ∧
    (e.isValid = true → e.cType = none → spacesToUnderscores e.spelling = e.tag ∧
      ∀ other : TypeEntry, other.isValid = true → other.cType = none → other.spelling = e.spelling →
        other.tag = e.tag) := by
  refine ⟨by simp [entryRejection?_eq_none_iff], e.isValid_iff_pieces, fun fault => ?_, fun valid => ?_,
    fun valid default => ?_⟩
  · exact e.rejection_alone_iff fault
  · exact (e.isValid_iff.1 valid).spelling.singlySpaced
  · have told := TypeEntry.tag_of_spelling valid default
    refine ⟨told, fun other valid' default' same => ?_⟩
    rw [← told, ← TypeEntry.tag_of_spelling valid' default', same]

-- Identifiers with a piece that is empty or begins with a digit.
example : ∀ tag ∈ ["_a", "a__b", "a_", "a_1"],
    entryRejection? [] ⟨tag, .signed, none⟩ = some (.invalidSpelling tag (underscoresToSpaces tag)) := by
  decide +kernel

end CollectionGlue
