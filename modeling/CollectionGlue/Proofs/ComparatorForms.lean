import CollectionGlue.Proofs.ComparatorRows
import CollectionGlue.Proofs.SeparateDefinitions
import CollectionGlue.Proofs.WordOccurrences

/-! # The text of a comparator shows how the values compare

A minus sign between spaces stands in the difference only, and the two branches in the branching comparison only.
Tags and spellings are words, so they can add neither, whatever words they are.
-/
namespace CollectionGlue

/-- The definition that belongs to an entry: its first row names the tag, a difference is taken once for a signed
entry and never for an unsigned one, and the other way around with branches. -/
structure ShowsComparison (e : TypeEntry) (definition : String) : Prop where
  opening : ("int " ++ e.tag ++ "_compare(void *a, void *b) \x7b\n").toList <+: definition.toList
  signed : e.signedness = .signed →
    occurrences " - " definition = 1 ∧ occurrences "return aa < bb" definition = 0
  unsigned : e.signedness = .unsigned →
    occurrences " - " definition = 0 ∧ occurrences "return aa < bb ? -1 : 1;" definition = 1

/-- What stands behind the two copies of a branching comparison. -/
def branchText : String :=
  "\n    if ( aa == bb ) \x7b\n        return 0;\n    \x7d\n\n    return aa < bb ? -1 : 1;\n\x7d\n\n"

private theorem countWord_difference {cType : String} (spelled : isTypeSpelling cType.toList = true) :
    countWord " - ".toList (differenceLine cType).row = 1 := by
  have minus : '-' ∉ cType.toList := by
    rw [← mem_punctuation_iff (by decide), punctuation_words (scansWords_all spelled)]
    exact List.not_mem_nil
  have row : (differenceLine cType).row = ("    return *((".toList ++ (cType.toList ++ "*".toList)) ++ ')' ::
      (" a".toList ++ ')' :: (" - ".toList ++ '*' :: ("((".toList ++ (cType.toList ++ "*) b);".toList)))) := by
    rw [row_differenceLine]
    simp
  have before : countWord " - ".toList ("    return *((".toList ++ (cType.toList ++ "*".toList)) = 0 :=
    countWord_eq_zero (c := '-') (by decide) (by simp [minus])
  have behind : countWord " - ".toList ("((".toList ++ (cType.toList ++ "*) b);".toList)) = 0 :=
    countWord_eq_zero (c := '-') (by decide) (by simp [minus])
  have between : countWord " - ".toList " a".toList + countWord " - ".toList " - ".toList = 1 := by decide
  have parenthesis (text rest : List Char) : countWord " - ".toList (text ++ ')' :: rest) =
      countWord " - ".toList text + countWord " - ".toList rest :=
    countWord_append_cons (by decide) (by decide) text rest
  rw [row, parenthesis, parenthesis, countWord_append_cons (by decide) (by decide), before, behind]
  omega

/-- A word with a character that the copies do not hold is counted in the template's other rows. -/
theorem countWord_branches {tag cType : String} (spelled : isTypeSpelling cType.toList = true) {word : List Char}
    (unbroken : '\n' ∉ word) {c : Char} (mem : c ∈ word) (foreign : (extendsIdentifier c || c == ' ') = false)
    (missing : c ∉ "=*((*));".toList) :
    countWord word (rowsText (comparisonRows (tag, .unsigned, cType))) =
      countWord word branchText.toList := by
  have copy (copy pointer : String) (named : copy.toList.all extendsIdentifier = true)
      (pointed : pointer.toList.all extendsIdentifier = true) :
      countWord word (copyLine cType copy pointer).row = 0 := by
    refine countWord_eq_zero mem ?_
    rwa [← mem_punctuation_iff foreign, punctuation_copyLine spelled copy pointer named pointed]
  obtain ⟨others, rows, text⟩ : ∃ others, comparisonRows (tag, .unsigned, cType) =
      (copyLine cType "aa" "a").row :: (copyLine cType "bb" "b").row :: others ∧
        rowsText others = branchText.toList := ⟨_, rfl, by decide⟩
  have some_word := List.ne_nil_of_mem mem
  rw [rows, countWord_rowsText_cons some_word unbroken, countWord_rowsText_cons some_word unbroken,
    copy "aa" "a" (by decide) (by decide), copy "bb" "b" (by decide) (by decide), text, Nat.zero_add, Nat.zero_add]

private theorem countWord_comparator {part : String × Signedness × String} (worded : WordedPart part) {word : List Char}
    (unbroken : '\n' ∉ word) {c : Char} (mem : c ∈ word) (foreign : (extendsIdentifier c || c == ' ') = false)
    (free : c ∉ "(*,*)\x7b".toList) {nullGuard : Bool}
    (unguarded : countWord word (rowsText ((guardLines nullGuard).map Line.row)) = 0) :
    countWord word (rowsText (definitionRows (comparatorFrom nullGuard part))) =
      countWord word (rowsText (comparisonRows part)) := by
  have some_word := List.ne_nil_of_mem mem
  have opening := countWord_eq_zero mem (not_mem_openingRow worded foreign free)
  rw [definitionRows_comparatorFrom, countWord_rowsText_cons some_word unbroken,
    countWord_rowsText_append some_word unbroken, opening, unguarded, Nat.zero_add, Nat.zero_add]

/-- The number of differences in a definition. -/
theorem countWord_minus (nullGuard : Bool) {part : String × Signedness × String} (worded : WordedPart part)
    (numeric : part.2.1 ≠ .nonNumeric) :
    countWord " - ".toList (rowsText (definitionRows (comparatorFrom nullGuard part))) =
      if part.2.1 = .signed then 1 else 0 := by
  have unguarded : countWord " - ".toList (rowsText ((guardLines nullGuard).map Line.row)) = 0 := by
    cases nullGuard <;> decide
  rw [countWord_comparator worded (c := '-') (by decide) (by decide) (by decide) (by decide) unguarded]
  obtain ⟨tag, signedness, cType⟩ := part
  cases signedness with
  | signed =>
    have rows : comparisonRows (tag, .signed, cType) = (differenceLine cType).row :: [['\x7d'], []] := rfl
    have ending : countWord " - ".toList (rowsText [['\x7d'], []]) = 0 := by decide
    rw [rows, countWord_rowsText_cons (by decide) (by decide), countWord_difference worded.spelling, ending]
    rfl
  | unsigned =>
    have literal : countWord " - ".toList branchText.toList = 0 := by decide
    rw [countWord_branches worded.spelling (c := '-') (by decide) (by decide) (by decide) (by decide), literal]
    rfl
  | nonNumeric => exact absurd rfl numeric

private theorem unguarded_branches {word : List Char} (mem : '<' ∈ word) (nullGuard : Bool) :
    countWord word (rowsText ((guardLines nullGuard).map Line.row)) = 0 :=
  countWord_eq_zero mem (by cases nullGuard <;> decide)

/-- No branch stands in the definition of a difference. -/
theorem countWord_branch_signed (nullGuard : Bool) {tag cType : String} (worded : WordedPart (tag, .signed, cType)) :
    countWord "return aa < bb".toList (rowsText (definitionRows (comparatorFrom nullGuard (tag, .signed, cType)))) =
      0 := by
  have foreign : (extendsIdentifier '<' || '<' == ' ') = false := by decide
  have mem : '<' ∈ "return aa < bb".toList := by decide
  have free : ∀ marks ∈ comparisonPunctuation .signed, '<' ∉ marks := by decide
  have missing := not_mem_rowsText (by decide) (not_mem_comparisonRows worded foreign free)
  rw [countWord_comparator worded (by decide) mem foreign (by decide) (unguarded_branches mem nullGuard)]
  exact countWord_eq_zero mem missing

private theorem countWord_branch_unsigned (nullGuard : Bool) {tag cType : String}
    (worded : WordedPart (tag, .unsigned, cType)) :
    countWord "return aa < bb ? -1 : 1;".toList
      (rowsText (definitionRows (comparatorFrom nullGuard (tag, .unsigned, cType)))) = 1 := by
  have foreign : (extendsIdentifier '<' || '<' == ' ') = false := by decide
  have mem : '<' ∈ "return aa < bb ? -1 : 1;".toList := by decide
  rw [countWord_comparator worded (by decide) mem foreign (by decide) (unguarded_branches mem nullGuard),
    countWord_branches worded.spelling (by decide) mem foreign (by decide)]
  decide

private theorem showsComparison_of_numeric {nullGuard : Bool} {t : TypeTable} {e : TypeEntry} (mem : e ∈ t.entries)
    (numeric : e.isNumeric = true) :
    ShowsComparison e (sourceText .definitions [comparatorFrom nullGuard (e.tag, e.signedness, e.spelling)]) := by
  have worded := t.wordedPart mem
  have some_comparison : e.signedness ≠ .nonNumeric := by simpa [TypeEntry.isNumeric] using numeric
  have text : (sourceText .definitions [comparatorFrom nullGuard (e.tag, e.signedness, e.spelling)]).toList =
      rowsText (definitionRows (comparatorFrom nullGuard (e.tag, e.signedness, e.spelling))) := by
    rw [toList_definitions, List.flatMap_singleton]
  have minus := countWord_minus nullGuard worded some_comparison
  refine ⟨?_, fun signed => ?_, fun unsigned => ?_⟩
  · rw [text, definitionRows_comparatorFrom, rowsText, List.flatMap_cons]
    simp [openingRow]
  · rw [occurrences, occurrences, text]
    rw [signed] at worded minus ⊢
    exact ⟨minus, countWord_branch_signed nullGuard worded⟩
  · rw [occurrences, occurrences, text]
    rw [unsigned] at worded minus ⊢
    exact ⟨minus, countWord_branch_unsigned nullGuard worded⟩

private theorem definitionsIn_comparators (nullGuard : Bool) (t : TypeTable) :
    definitionsIn (sourceText .definitions (comparators nullGuard t)) = (t.entries.filter (·.isNumeric)).map fun e =>
      sourceText .definitions [comparatorFrom nullGuard (e.tag, e.signedness, e.spelling)] := by
  rw [definitionsIn_sourceText (unbroken_comparators nullGuard t), comparators_eq_map_comparatorFrom,
    TypeTable.numericParts, List.map_map, List.map_map]
  rfl

private theorem occurrences_minus (nullGuard : Bool) (t : TypeTable) :
    occurrences " - " (sourceText .definitions (comparators nullGuard t)) =
      t.numericParts.countP fun part => part.2.1 = .signed := by
  have worded := t.numericParts_worded
  have numeric := t.numericParts_numeric
  rw [occurrences, toList_definitions, comparators_eq_map_comparatorFrom, List.flatMap_map]
  generalize t.numericParts = parts at worded numeric
  induction parts with
  | nil => rfl
  | cons part parts ih =>
    rw [List.forall_mem_cons] at worded numeric
    rw [List.flatMap_cons, countWord_rowsText_append (by decide) (by decide), ih worded.2 numeric.2,
      countWord_minus nullGuard worded.1 numeric.1, List.countP_cons, Nat.add_comm]
    simp only [decide_eq_true_eq]

/-- The definitions in the text of the comparators belong to the numeric entries, in order, and each shows the way
of comparing that its entry declares. All in all there are as many differences as signed entries. -/
theorem comparators_show_comparisons (nullGuard : Bool) (t : TypeTable) :
    List.Forall₂ ShowsComparison (t.entries.filter fun e => e.signedness ≠ .nonNumeric)
        (definitionsIn (sourceText .definitions (comparators nullGuard t))) ∧
      occurrences " - " (sourceText .definitions (comparators nullGuard t)) =
        t.entries.countP fun e => e.signedness = .signed := by
  constructor
  · have numeric : (t.entries.filter fun e => e.signedness ≠ .nonNumeric) = t.entries.filter (·.isNumeric) :=
      List.filter_congr fun e _ => by cases h : e.signedness <;> simp [TypeEntry.isNumeric, h]
    rw [numeric, definitionsIn_comparators, List.forall₂_map_right_iff, List.forall₂_same]
    intro e mem
    obtain ⟨he, numeric⟩ := List.mem_filter.1 mem
    exact showsComparison_of_numeric he numeric
  · rw [occurrences_minus, TypeTable.numericParts, List.countP_map, List.countP_filter]
    refine List.countP_congr fun e _ => ?_
    cases h : e.signedness <;> simp [TypeEntry.isNumeric, h]

end CollectionGlue
