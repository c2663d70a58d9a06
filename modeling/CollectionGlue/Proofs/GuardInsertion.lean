import CollectionGlue.Proofs.ComparatorRows
import CollectionGlue.Proofs.HeaderRows

/-! # The guard is a block put in behind each opening row

Guarded and unguarded comparators of an entry have the same rows but for the guard. The guard holds a character
that no other row holds, so it stands in a guarded text just where it was put in, and deleting it there gives the
unguarded text.
-/
namespace CollectionGlue

/-- The five rows of the guard and the blank row behind them. -/
def guardText : String :=
  "    if ( !a && !b ) \x7b\n        return 0;\n    \x7d else if ( !a || !b ) \x7b\n        return (!a) ? -1 : 1;\n    \x7d\n\n"

/-- The text with a block put in behind each of its rows that opens a function. -/
def insertBehindOpenings (block source : String) : String :=
  String.ofList ((rowsOf source).flatMap (fun row => row ++ '\n' :: if opensFunction row then block.toList else []) ++
    (source.toList.splitOn '\n').getLastD [])

/-- Takes a block out wherever it is found, from left to right. `passing` counts the characters that still belong
to the last one found. -/
def withoutBlock (block : List Char) : Nat → List Char → List Char
  | _, [] => []
  | passing + 1, _ :: text => withoutBlock block passing text
  | 0, c :: text =>
    if block.isPrefixOf (c :: text) then withoutBlock block (block.length - 1) text
    else c :: withoutBlock block 0 text

def deleteEvery (block source : String) : String := String.ofList (withoutBlock block.toList 0 source.toList)

private theorem withoutBlock_eq_drop (block : List Char) (passing : Nat) (text : List Char) :
    withoutBlock block passing text = withoutBlock block 0 (text.drop passing) := by
  induction text generalizing passing with
  | nil => cases passing <;> rfl
  | cons c text ih =>
    cases passing with
    | zero => rfl
    | succ passing => rw [withoutBlock, List.drop_succ_cons, ih]

private theorem withoutBlock_cons {block : List Char} {c : Char} {text : List Char} (other : ¬block <+: c :: text) :
    withoutBlock block 0 (c :: text) = c :: withoutBlock block 0 text := by
  rw [withoutBlock, if_neg (by simpa using other)]

private theorem withoutBlock_append {block : List Char} (some_block : block ≠ []) (text : List Char) :
    withoutBlock block 0 (block ++ text) = withoutBlock block 0 text := by
  obtain ⟨c, rest, rfl⟩ := List.exists_cons_of_ne_nil some_block
  have found : (c :: rest).isPrefixOf (c :: (rest ++ text)) = true :=
    List.isPrefixOf_iff_prefix.2 (List.prefix_append (c :: rest) text)
  rw [List.cons_append, withoutBlock, if_pos found, withoutBlock_eq_drop]
  simp

section
variable {block : List Char} {mark : Char} (marked : mark ∈ block)
include marked

/-- Text without the mark delays the mark, so the block does not begin inside of it. -/
theorem not_prefix_of_unmarked {front : List Char} (unmarked : mark ∉ front) (some_front : front ≠ [])
    (text : List Char) : ¬block <+: front ++ (block ++ text) := by
  rintro ⟨rest, same⟩
  have places := congrArg (List.idxOf mark) same
  rw [List.idxOf_append_of_mem marked, List.idxOf_append_of_notMem unmarked, List.idxOf_append_of_mem marked] at places
  have empty : front.length = 0 := by omega
  exact some_front (List.length_eq_zero_iff.1 empty)

private theorem withoutBlock_unmarked {text : List Char} (unmarked : mark ∉ text) :
    withoutBlock block 0 text = text := by
  induction text with
  | nil => rfl
  | cons c text ih =>
    have other : ¬block <+: c :: text := fun found => unmarked (found.subset marked)
    rw [withoutBlock_cons other, ih fun mem => unmarked (List.mem_cons_of_mem c mem)]

private theorem withoutBlock_front {front : List Char} (unmarked : mark ∉ front) (text : List Char) :
    withoutBlock block 0 (front ++ (block ++ text)) = front ++ withoutBlock block 0 text := by
  induction front with
  | nil => exact withoutBlock_append (List.ne_nil_of_mem marked) text
  | cons c front ih =>
    have other : ¬block <+: c :: (front ++ (block ++ text)) :=
      not_prefix_of_unmarked marked unmarked (List.cons_ne_nil c front) text
    rw [List.cons_append, withoutBlock_cons other, ih fun mem => unmarked (List.mem_cons_of_mem c mem)]
    rfl

/-- Blocks that were put in between unmarked texts are all taken out again. -/
theorem withoutBlock_flatMap {α : Type} {head tail : α → List Char} {items : List α}
    (heads : ∀ a ∈ items, mark ∉ head a) (tails : ∀ a ∈ items, mark ∉ tail a) :
    withoutBlock block 0 (items.flatMap fun a => head a ++ (block ++ tail a)) =
      items.flatMap fun a => head a ++ tail a := by
  -- What stands behind one block stands before the next, so the induction needs any unmarked text in front.
  suffices every : ∀ front, mark ∉ front →
      withoutBlock block 0 (front ++ items.flatMap fun a => head a ++ (block ++ tail a)) =
        front ++ items.flatMap fun a => head a ++ tail a from every [] List.not_mem_nil
  induction items with
  | nil => exact fun front unmarked => withoutBlock_unmarked marked (by simpa using unmarked)
  | cons a items ih =>
    intro front unmarked
    rw [List.forall_mem_cons] at heads tails
    have before : mark ∉ front ++ head a := by simp [unmarked, heads.1]
    have whole : front ++ (a :: items).flatMap (fun a => head a ++ (block ++ tail a)) =
        (front ++ head a) ++ (block ++ (tail a ++ items.flatMap fun a => head a ++ (block ++ tail a))) := by
      simp
    rw [whole, withoutBlock_front marked before, ih heads.2 tails.2 (tail a) tails.1]
    simp

end

private theorem rowsText_guardRows : rowsText ((guardLines true).map Line.row) = guardText.toList := by
  decide

/-- An exclamation mark stands in the guard only. -/
theorem unmarked_comparator {part : String × Signedness × String} (worded : WordedPart part) :
    '!' ∉ rowsText [openingRow part.1] ∧ '!' ∉ rowsText (comparisonRows part) := by
  have foreign : (extendsIdentifier '!' || '!' == ' ') = false := by decide
  have free : ∀ marks ∈ comparisonPunctuation part.2.1, '!' ∉ marks := by
    cases part.2.1 <;> decide
  constructor
  · refine not_mem_rowsText (by decide) (List.forall_mem_singleton.2 ?_)
    exact not_mem_openingRow worded foreign (by decide)
  · exact not_mem_rowsText (by decide) (not_mem_comparisonRows worded foreign free)

private theorem opensFunction_openingRow (tag : String) : opensFunction (openingRow tag) = true := by
  have ending : [' ', '\x7b'].isSuffixOf (openingRow tag) = true := by
    rw [List.isSuffixOf_iff_suffix, openingRow, ← List.append_assoc]
    exact List.IsSuffix.trans (by decide) (List.suffix_append _ _)
  have head : (openingRow tag).head? = some 'i' := rfl
  rw [opensFunction, ending, head]
  rfl

private theorem opensFunction_comparisonRows (part : String × Signedness × String) :
    ∀ row ∈ comparisonRows part, opensFunction row = false := by
  intro row mem
  have closing : ∀ row ∈ [['\x7d'], []], opensFunction row = false := by decide
  rcases List.mem_append.1 mem with mem | mem
  · obtain ⟨l, hl, rfl⟩ := List.mem_map.1 mem
    refine opensFunction_body (comparisonOf false part).2 l ?_
    rw [Body.lines_eq]
    exact List.mem_append_right _ hl
  · exact closing row mem

/-- Of the rows of an unguarded comparator only the first takes a block behind it. -/
theorem insert_comparator (block : List Char) (part : String × Signedness × String) :
    (definitionRows (comparatorFrom false part)).flatMap
        (fun row => row ++ '\n' :: if opensFunction row then block else []) =
      rowsText [openingRow part.1] ++ (block ++ rowsText (comparisonRows part)) := by
  have behind : (comparisonRows part).flatMap (fun row => row ++ '\n' :: if opensFunction row then block else []) =
      rowsText (comparisonRows part) :=
    List.flatMap_congr fun row mem => by rw [opensFunction_comparisonRows part row mem]; rfl
  rw [definitionRows_comparatorFrom, List.flatMap_cons, opensFunction_openingRow]
  simp [guardLines, behind, rowsText]

private theorem toList_comparators (nullGuard : Bool) (t : TypeTable) :
    (sourceText .definitions (comparators nullGuard t)).toList = t.numericParts.flatMap fun part =>
      rowsText [openingRow part.1] ++ (rowsText ((guardLines nullGuard).map Line.row) ++
        rowsText (comparisonRows part)) := by
  rw [toList_definitions, comparators_eq_map_comparatorFrom, List.flatMap_map, rowsText, List.flatMap_assoc]
  refine List.flatMap_congr fun part _ => ?_
  rw [definitionRows_comparatorFrom, ← rowsText_append, ← rowsText_append]
  rfl

private theorem toList_guarded (t : TypeTable) :
    (sourceText .definitions (comparators true t)).toList = t.numericParts.flatMap fun part =>
      rowsText [openingRow part.1] ++ (guardText.toList ++ rowsText (comparisonRows part)) := by
  rw [toList_comparators, rowsText_guardRows]

private theorem insertBehindOpenings_comparators (block : String) (t : TypeTable) :
    (insertBehindOpenings block (sourceText .definitions (comparators false t))).toList =
      t.numericParts.flatMap fun part =>
        rowsText [openingRow part.1] ++ (block.toList ++ rowsText (comparisonRows part)) := by
  have cut := splitOn_definitions (unbroken_comparators false t)
  rw [insertBehindOpenings, rowsOf, cut, List.dropLast_concat, comparators_eq_map_comparatorFrom, List.flatMap_map,
    List.flatMap_assoc, String.toList_ofList, List.flatMap_congr fun part _ => insert_comparator block.toList part]
  simp

private theorem prototypes_comparators (nullGuard : Bool) (t : TypeTable) :
    sourceText .prototypes (comparators nullGuard t) = sourceText .prototypes (comparators false t) := by
  rw [← String.toList_inj, toList_prototypes, toList_prototypes, comparators_eq_map_comparatorFrom,
    comparators_eq_map_comparatorFrom, List.flatMap_map, List.flatMap_map]
  refine List.flatMap_congr fun part _ => ?_
  obtain ⟨tag, signedness, spelling⟩ := part
  cases signedness <;> rfl

/-- The guard is all that guarded definitions have over unguarded ones. It stands behind each row that opens a
function, nowhere else, and prototypes do not show it. -/
theorem guard_inserted_and_deleted (t : TypeTable) :
    sourceText .definitions (comparators true t) =
        insertBehindOpenings guardText (sourceText .definitions (comparators false t)) ∧
      deleteEvery guardText (sourceText .definitions (comparators true t)) =
        sourceText .definitions (comparators false t) ∧
      sourceText .prototypes (comparators true t) = sourceText .prototypes (comparators false t) := by
  refine ⟨?_, ?_, prototypes_comparators true t⟩
  · rw [← String.toList_inj, toList_guarded, insertBehindOpenings_comparators]
  · have unmarked := fun part mem => unmarked_comparator (t.numericParts_worded part mem)
    have marked : '!' ∈ guardText.toList := by decide
    rw [← String.toList_inj, deleteEvery, String.toList_ofList, toList_guarded,
      withoutBlock_flatMap marked (fun part mem => (unmarked part mem).1) fun part mem => (unmarked part mem).2,
      toList_comparators]
    rfl

end CollectionGlue
