import CollectionGlue.Proofs.SourceLayout

/-! # The rows of a comparator and the punctuation in them

The comparator of a numeric entry is an opening row, the guard if there is one, and the rows of the comparison.
Only words are put into its templates, so whatever the tag and the spelling are, its rows have the punctuation of
the templates.
-/
namespace CollectionGlue

/-- The characters of a text that are neither part of a word nor spaces. -/
def punctuation (text : List Char) : List Char := text.filter fun c => !(extendsIdentifier c || c == ' ')

private theorem punctuation_append (text more : List Char) :
    punctuation (text ++ more) = punctuation text ++ punctuation more :=
  List.filter_append text more

theorem punctuation_words {text : List Char} (words : ∀ c ∈ text, extendsIdentifier c = true ∨ c = ' ') :
    punctuation text = [] := by
  rw [punctuation, List.filter_eq_nil_iff]
  intro c mem
  rcases words c mem with part | space
  · simp [part]
  · simp [space]

theorem mem_punctuation_iff {c : Char} (foreign : (extendsIdentifier c || c == ' ') = false) (text : List Char) :
    c ∈ punctuation text ↔ c ∈ text := by
  rw [punctuation, List.mem_filter, foreign]
  exact and_iff_left rfl

/-- A tag and a spelling as a table holds them, with the way of comparing between them. -/
structure WordedPart (part : String × Signedness × String) : Prop where
  tag : IdentifierText part.1.toList
  spelling : isTypeSpelling part.2.2.toList = true

theorem TypeTable.wordedPart (t : TypeTable) {e : TypeEntry} (mem : e ∈ t.entries) :
    WordedPart (e.tag, e.signedness, e.spelling) :=
  ⟨t.identifierText_tag mem, t.isTypeSpelling_spelling mem⟩

theorem TypeTable.numericParts_worded (t : TypeTable) : ∀ part ∈ t.numericParts, WordedPart part := by
  intro part mem
  obtain ⟨e, he, rfl⟩ := List.mem_map.1 mem
  exact t.wordedPart (List.mem_of_mem_filter he)

/-- The comparator of a numeric entry, from its tag, its way of comparing and its spelling. -/
def comparatorFrom (nullGuard : Bool) (part : String × Signedness × String) : CFunction :=
  comparatorOf (comparisonOf nullGuard part).1 (comparisonOf nullGuard part).2

theorem comparators_eq_map_comparatorFrom (nullGuard : Bool) (t : TypeTable) :
    comparators nullGuard t = t.numericParts.map (comparatorFrom nullGuard) := by
  rw [comparators_eq_map, comparisons_eq_map, List.map_map]
  rfl

/-- The row that the comparator of a tag begins with. -/
def openingRow (tag : String) : List Char :=
  "int ".toList ++ (tag.toList ++ "_compare(void *a, void *b) \x7b".toList)

/-- The rows behind the guard. -/
def comparisonRows (part : String × Signedness × String) : List (List Char) :=
  (comparisonOf false part).2.comparisonLines.map Line.row ++ [['\x7d'], []]

/-- Only the guard depends on the flag. -/
theorem definitionRows_comparatorFrom (nullGuard : Bool) (part : String × Signedness × String) :
    definitionRows (comparatorFrom nullGuard part) =
      openingRow part.1 :: ((guardLines nullGuard).map Line.row ++ comparisonRows part) := by
  obtain ⟨tag, signedness, spelling⟩ := part
  have opening (body : Body) : ((comparatorOf tag body).signature ++ " \x7b").toList = openingRow tag :=
    toList_signature_comparatorOf tag body
  rw [definitionRows_eq]
  cases signedness <;> exact congrArg (· :: _) (opening _)

private theorem punctuation_openingRow {tag : String} (h : IdentifierText tag.toList) :
    punctuation (openingRow tag) = "(*,*)\x7b".toList := by
  rw [openingRow, punctuation_append, punctuation_append, punctuation_words (WordText.of_identifier h).words]
  decide

section
variable {cType : String} (spelled : isTypeSpelling cType.toList = true)
include spelled

private theorem punctuation_differenceLine : punctuation (differenceLine cType).row = "*((*))-*((*));".toList := by
  simp only [row_differenceLine, punctuation_append, punctuation_words (scansWords_all spelled)]
  decide

theorem punctuation_copyLine (copy pointer : String) (named : copy.toList.all extendsIdentifier = true)
    (pointed : pointer.toList.all extendsIdentifier = true) :
    punctuation (copyLine cType copy pointer).row = "=*((*));".toList := by
  have row : (copyLine cType copy pointer).row = "    ".toList ++ (cType.toList ++ (" ".toList ++ (copy.toList ++
      (" = *((".toList ++ (cType.toList ++ ("*) ".toList ++ (pointer.toList ++ ");".toList))))))) := by
    simp [copyLine, Line.row, indentation, dereferenced]
  have name {text : List Char} (all : text.all extendsIdentifier = true) : punctuation text = [] :=
    punctuation_words fun c mem => .inl (List.all_eq_true.1 all c mem)
  simp only [row, punctuation_append, punctuation_words (scansWords_all spelled), name named, name pointed]
  decide

end

/-- The punctuation of the rows of a comparison, which only the way of comparing decides. -/
def comparisonPunctuation : Signedness → List (List Char)
  | .signed => ["*((*))-*((*));".toList, ['\x7d'], []]
  | _ => ["=*((*));".toList, "=*((*));".toList, [], "(==)\x7b".toList, [';'], ['\x7d'], [], "<?-:;".toList, ['\x7d'], []]

private theorem punctuation_comparisonRows {part : String × Signedness × String} (worded : WordedPart part) :
    (comparisonRows part).map punctuation = comparisonPunctuation part.2.1 := by
  obtain ⟨tag, signedness, spelling⟩ := part
  have difference := punctuation_differenceLine worded.spelling
  have copyA := punctuation_copyLine worded.spelling "aa" "a" (by decide) (by decide)
  have copyB := punctuation_copyLine worded.spelling "bb" "b" (by decide) (by decide)
  cases signedness <;>
    simp only [comparisonRows, comparisonOf, Body.comparisonLines, List.map_cons, List.map_nil, List.map_append,
      difference, copyA, copyB] <;>
    decide

theorem not_mem_rowsText {c : Char} {rows : List (List Char)} (visible : c ≠ '\n') (free : ∀ row ∈ rows, c ∉ row) :
    c ∉ rowsText rows := by
  intro mem
  obtain ⟨row, hrow, mem⟩ := List.mem_flatMap.1 mem
  rcases List.mem_append.1 mem with mem | mem
  · exact free row hrow mem
  · exact visible (List.mem_singleton.1 mem)

variable {part : String × Signedness × String} (worded : WordedPart part) {c : Char}
  (foreign : (extendsIdentifier c || c == ' ') = false)
include worded foreign

theorem not_mem_openingRow (free : c ∉ "(*,*)\x7b".toList) : c ∉ openingRow part.1 := by
  rwa [← mem_punctuation_iff foreign, punctuation_openingRow worded.tag]

theorem not_mem_comparisonRows (free : ∀ marks ∈ comparisonPunctuation part.2.1, c ∉ marks) :
    ∀ row ∈ comparisonRows part, c ∉ row := by
  intro row mem
  rw [← mem_punctuation_iff foreign]
  exact free _ (punctuation_comparisonRows worded ▸ List.mem_map_of_mem mem)

end CollectionGlue
