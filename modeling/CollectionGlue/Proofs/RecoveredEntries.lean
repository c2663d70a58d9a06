import CollectionGlue.Proofs.SymbolHygiene
import CollectionGlue.Proofs.TextRows

/-! # The text of the comparators tells the numeric entries

A comparator is read off its rows from the first one on. The first row says the tag. The next one opens the
guard, the difference or the copies, and its last characters say which, whatever words the spelling is made
of. A spelling stands twice in its row, so the length of the row says where it ends.
-/
namespace CollectionGlue

/-- Of two endings of one text neither is longer only if they are the same. -/
theorem ending_unique {text ending ending' : List Char} (h : ending <:+ text) (h' : ending' <:+ text)
    (same : ending.length = ending'.length) : ending = ending' :=
  (List.suffix_of_suffix_length_le h h' same.le).eq_of_length same

private theorem twice_injective {before middle after text text' : List Char}
    (same : before ++ (text ++ (middle ++ (text ++ after))) =
      before ++ (text' ++ (middle ++ (text' ++ after)))) : text = text' := by
  have lengths := congrArg List.length same
  simp only [List.length_append] at lengths
  exact List.append_inj_left (List.append_cancel_left same) (by omega)

def differenceLine (cType : String) : Line :=
  ⟨1, "return " ++ dereferenced cType "a" ++ " - " ++ dereferenced cType "b" ++ ";"⟩

def copyLine (cType copy pointer : String) : Line :=
  ⟨1, cType ++ " " ++ copy ++ " = " ++ dereferenced cType pointer ++ ";"⟩

theorem row_differenceLine (cType : String) :
    (differenceLine cType).row = "    return *((".toList ++ (cType.toList ++
      ("*) a) - *((".toList ++ (cType.toList ++ "*) b);".toList))) := by
  simp [differenceLine, Line.row, indentation, dereferenced]

private theorem row_copyLine (cType : String) :
    (copyLine cType "aa" "a").row = "    ".toList ++ (cType.toList ++
      (" aa = *((".toList ++ (cType.toList ++ "*) a);".toList))) := by
  simp [copyLine, Line.row, indentation, dereferenced]

private theorem differenceLine_ending (cType : String) : "*) b);".toList <:+ (differenceLine cType).row := by
  rw [row_differenceLine]
  simp only [← List.append_assoc]
  exact List.suffix_append _ _

private theorem copyLine_ending (cType : String) : "*) a);".toList <:+ (copyLine cType "aa" "a").row := by
  rw [row_copyLine]
  simp only [← List.append_assoc]
  exact List.suffix_append _ _

def Body.isComparison : Body → Bool
  | .subtraction .. | .branching .. => true
  | .dictionary .. => false

def Body.isGuarded : Body → Bool
  | .subtraction _ nullGuard | .branching _ nullGuard => nullGuard
  | .dictionary .. => false

/-- The lines behind the guard. -/
def Body.comparisonLines : Body → List Line
  | .subtraction cType _ => [differenceLine cType]
  | .branching cType _ => copyLine cType "aa" "a" :: copyLine cType "bb" "b" :: [
      .blank,
      ⟨1, "if ( aa == bb ) \x7b"⟩,
      ⟨2, "return 0;"⟩,
      ⟨1, "\x7d"⟩,
      .blank,
      ⟨1, "return aa < bb ? -1 : 1;"⟩]
  | .dictionary key value => (Body.dictionary key value).lines

theorem Body.lines_eq (b : Body) : b.lines = guardLines b.isGuarded ++ b.comparisonLines := by
  cases b with
  | subtraction cType nullGuard => rfl
  | branching cType nullGuard =>
    have copy (rest : String) : cType ++ " " ++ "aa" ++ " = " ++ rest = cType ++ " aa = " ++ rest := by
      simp [String.append_assoc]
    have copy' (rest : String) : cType ++ " " ++ "bb" ++ " = " ++ rest = cType ++ " bb = " ++ rest := by
      simp [String.append_assoc]
    simp only [comparisonLines, copyLine, copy, copy']
    rfl
  | dictionary key value => rfl

/-- The first row behind the guard ends a statement. -/
theorem Body.comparisonLines_begin {b : Body} (compares : b.isComparison = true) :
    ∃ first rest, b.comparisonLines = first :: rest ∧ ");".toList <:+ first.row := by
  cases b with
  | subtraction cType nullGuard =>
    have ending : ");".toList <:+ "*) b);".toList := by decide
    exact ⟨_, _, rfl, ending.trans (differenceLine_ending cType)⟩
  | branching cType nullGuard =>
    have ending : ");".toList <:+ "*) a);".toList := by decide
    exact ⟨_, _, rfl, ending.trans (copyLine_ending cType)⟩
  | dictionary key value => cases compares

private theorem guard_ne_comparison {b : Body} (compares : b.isComparison = true) (rows rows' : List (List Char)) :
    (guardLines true).map Line.row ++ rows ≠ b.comparisonLines.map Line.row ++ rows' := by
  intro same
  obtain ⟨first, rest, begins, ending⟩ := Body.comparisonLines_begin compares
  rw [begins] at same
  have opening : (Line.mk 1 "if ( !a && !b ) \x7b").row = first.row := (List.cons.inj same).1
  have brace : " \x7b".toList <:+ (Line.mk 1 "if ( !a && !b ) \x7b").row := by decide
  rw [opening] at brace
  exact absurd (ending_unique brace ending (by simp)) (by decide)

private theorem guard_append_inj {b b' : Body} (compares : b.isComparison = true) (compares' : b'.isComparison = true)
    {guard guard' : Bool} {rows rows' : List (List Char)}
    (same : (guardLines guard).map Line.row ++ (b.comparisonLines.map Line.row ++ rows) =
      (guardLines guard').map Line.row ++ (b'.comparisonLines.map Line.row ++ rows')) :
    guard = guard' ∧
      b.comparisonLines.map Line.row ++ rows = b'.comparisonLines.map Line.row ++ rows' := by
  cases guard <;> cases guard'
  case false.false => exact ⟨rfl, same⟩
  case true.true => exact ⟨rfl, List.append_cancel_left same⟩
  case true.false => exact absurd same (guard_ne_comparison compares' _ _)
  case false.true => exact absurd same.symm (guard_ne_comparison compares _ _)

private theorem comparison_append_inj {b b' : Body} (compares : b.isComparison = true)
    (compares' : b'.isComparison = true) (guard : b.isGuarded = b'.isGuarded) {rows rows' : List (List Char)}
    (same : b.comparisonLines.map Line.row ++ rows = b'.comparisonLines.map Line.row ++ rows') :
    b = b' ∧ rows = rows' := by
  have kinds (cType cType' : String) : (differenceLine cType).row ≠ (copyLine cType' "aa" "a").row := by
    intro same
    have ending := differenceLine_ending cType
    rw [same] at ending
    exact absurd (ending_unique ending (copyLine_ending cType') (by simp)) (by decide)
  cases b with
  | dictionary key value => cases compares
  | subtraction cType nullGuard =>
    cases b' with
    | dictionary key value => cases compares'
    | subtraction cType' nullGuard' =>
      obtain ⟨first, rest⟩ := List.cons.inj same
      rw [row_differenceLine, row_differenceLine] at first
      have types : cType = cType' := String.toList_inj.1 (twice_injective first)
      have guards : nullGuard = nullGuard' := guard
      exact ⟨by rw [types, guards], rest⟩
    | branching cType' nullGuard' => exact absurd (List.cons.inj same).1 (kinds cType cType')
  | branching cType nullGuard =>
    cases b' with
    | dictionary key value => cases compares'
    | subtraction cType' nullGuard' => exact absurd (List.cons.inj same).1.symm (kinds cType' cType)
    | branching cType' nullGuard' =>
      have first := (List.cons.inj same).1
      rw [row_copyLine, row_copyLine] at first
      obtain rfl : cType = cType' := String.toList_inj.1 (twice_injective first)
      obtain rfl : nullGuard = nullGuard' := guard
      exact ⟨rfl, List.append_cancel_left same⟩

/-- The comparator of a tag with the given body. -/
def comparatorOf (tag : String) (body : Body) : CFunction :=
  ⟨"int", roleSymbol tag .compare, [⟨"void *", "a"⟩, ⟨"void *", "b"⟩], body⟩

def definitionRows (f : CFunction) : List (List Char) := (f.lines .definitions).map Line.row

theorem definitionRows_append (f : CFunction) (rows : List (List Char)) :
    definitionRows f ++ rows = (f.signature ++ " \x7b").toList ::
      ((guardLines f.body.isGuarded).map Line.row ++
        (f.body.comparisonLines.map Line.row ++ (['\x7d'] :: [] :: rows))) := by
  simp [definitionRows, CFunction.lines, Body.lines_eq, Line.row, Line.blank, indentation]

theorem toList_signature_comparatorOf (tag : String) (body : Body) :
    ((comparatorOf tag body).signature ++ " \x7b").toList =
      "int ".toList ++ (tag.toList ++ "_compare(void *a, void *b) \x7b".toList) := by
  have list : parameterList [⟨"void *", "a"⟩, ⟨"void *", "b"⟩] = "void *a, void *b" := by decide +kernel
  simp [comparatorOf, CFunction.signature, list, roleSymbol, suffixedSymbol, Role.suffix]

/-- The rows of a comparator say where it ends, and tell its tag and its body. -/
theorem comparator_append_inj {tag tag' : String} {b b' : Body} (compares : b.isComparison = true)
    (compares' : b'.isComparison = true) {rows rows' : List (List Char)}
    (same : definitionRows (comparatorOf tag b) ++ rows = definitionRows (comparatorOf tag' b') ++ rows') :
    tag = tag' ∧ b = b' ∧ rows = rows' := by
  rw [definitionRows_append, definitionRows_append] at same
  obtain ⟨first, later⟩ := List.cons.inj same
  rw [toList_signature_comparatorOf, toList_signature_comparatorOf] at first
  have tags : tag.toList = tag'.toList := List.append_cancel_right (List.append_cancel_left first)
  obtain ⟨guard, later⟩ := guard_append_inj compares compares' later
  obtain ⟨body, later⟩ := comparison_append_inj compares compares' guard later
  exact ⟨String.toList_inj.1 tags, body, (List.cons.inj (List.cons.inj later).2).2⟩

private theorem comparators_injective {parts parts' : List (String × Body)}
    (compare : ∀ p ∈ parts, p.2.isComparison = true) (compare' : ∀ p ∈ parts', p.2.isComparison = true)
    (same : (parts.flatMap fun p => definitionRows (comparatorOf p.1 p.2)) =
      parts'.flatMap fun p => definitionRows (comparatorOf p.1 p.2)) : parts = parts' := by
  induction parts generalizing parts' with
  | nil =>
    cases parts' with
    | nil => rfl
    | cons part' parts' => rw [List.flatMap_cons, definitionRows_append] at same; cases same
  | cons part parts ih =>
    cases parts' with
    | nil => rw [List.flatMap_cons, definitionRows_append] at same; cases same
    | cons part' parts' =>
      rw [List.forall_mem_cons] at compare compare'
      rw [List.flatMap_cons, List.flatMap_cons] at same
      obtain ⟨tags, bodies, later⟩ := comparator_append_inj compare.1 compare'.1 same
      exact congrArg₂ List.cons (Prod.ext tags bodies) (ih compare.2 compare'.2 later)

private theorem isComparison_of_comparisonBody? {nullGuard : Bool} {e : TypeEntry} {b : Body}
    (made : comparisonBody? nullGuard e = some b) : b.isComparison = true := by
  rcases comparisonBody?_eq_some made with ⟨-, rfl⟩ | ⟨-, rfl⟩ <;> rfl

/-- The tags with the bodies of their comparators. -/
def comparisons (nullGuard : Bool) (t : TypeTable) : List (String × Body) :=
  t.entries.filterMap fun e => (comparisonBody? nullGuard e).map fun body => (e.tag, body)

theorem comparators_eq_map (nullGuard : Bool) (t : TypeTable) :
    comparators nullGuard t = (comparisons nullGuard t).map fun p => comparatorOf p.1 p.2 := by
  simp only [comparators, comparisons, List.map_filterMap, Option.map_map]
  rfl

private theorem sourceText_comparators_injective {t t' : TypeTable} {nullGuard nullGuard' : Bool}
    (same : sourceText .definitions (comparators nullGuard t) =
      sourceText .definitions (comparators nullGuard' t')) :
    comparisons nullGuard t = comparisons nullGuard' t' := by
  have compare (g : Bool) (t : TypeTable) : ∀ p ∈ comparisons g t, p.2.isComparison = true := by
    intro p mem
    obtain ⟨e, -, made⟩ := List.mem_filterMap.1 mem
    obtain ⟨body, compared, rfl⟩ := Option.map_eq_some_iff.1 made
    exact isComparison_of_comparisonBody? compared
  have rows := congrArg rowsOf same
  rw [rowsOf_sourceText (unbroken_comparators _ t), rowsOf_sourceText (unbroken_comparators _ t'),
    comparators_eq_map, comparators_eq_map, List.flatMap_map, List.flatMap_map] at rows
  exact comparators_injective (compare nullGuard t) (compare nullGuard' t') rows

/-- What the comparators of a table are made from: the tag, the way of comparing and the spelling, stored
or not, of each numeric entry. -/
def TypeTable.numericParts (t : TypeTable) : List (String × Signedness × String) :=
  (t.entries.filter (·.isNumeric)).map fun e => (e.tag, e.signedness, e.spelling)

def comparisonOf (nullGuard : Bool) : String × Signedness × String → String × Body
  | (tag, .signed, spelling) => (tag, .subtraction spelling nullGuard)
  | (tag, _, spelling) => (tag, .branching spelling nullGuard)

theorem comparisons_eq_map (nullGuard : Bool) (t : TypeTable) :
    comparisons nullGuard t = t.numericParts.map (comparisonOf nullGuard) := by
  rw [TypeTable.numericParts, comparisons]
  induction t.entries with
  | nil => rfl
  | cons e entries ih =>
    obtain ⟨tag, signedness, cType⟩ := e
    cases signedness with
    | signed => simpa [comparisonBody?, TypeEntry.isNumeric, comparisonOf] using ih
    | unsigned => simpa [comparisonBody?, TypeEntry.isNumeric, comparisonOf] using ih
    | nonNumeric => simpa [comparisonBody?, TypeEntry.isNumeric] using ih

theorem TypeTable.numericParts_numeric (t : TypeTable) :
    ∀ part ∈ t.numericParts, part.2.1 ≠ .nonNumeric := by
  intro part mem
  obtain ⟨e, he, rfl⟩ := List.mem_map.1 mem
  simpa [TypeEntry.isNumeric] using (List.mem_filter.1 he).2

private theorem comparisonOf_injective {nullGuard nullGuard' : Bool} {part part' : String × Signedness × String}
    (numeric : part.2.1 ≠ .nonNumeric) (numeric' : part'.2.1 ≠ .nonNumeric)
    (same : comparisonOf nullGuard part = comparisonOf nullGuard' part') :
    part = part' ∧ nullGuard = nullGuard' := by
  obtain ⟨tag, signedness, spelling⟩ := part
  obtain ⟨tag', signedness', spelling'⟩ := part'
  cases signedness <;> cases signedness' <;> simp_all [comparisonOf]

private theorem map_comparisonOf_injective {nullGuard nullGuard' : Bool}
    {parts parts' : List (String × Signedness × String)}
    (numeric : ∀ part ∈ parts, part.2.1 ≠ .nonNumeric) (numeric' : ∀ part ∈ parts', part.2.1 ≠ .nonNumeric)
    (same : parts.map (comparisonOf nullGuard) = parts'.map (comparisonOf nullGuard')) :
    parts = parts' ∧ (parts ≠ [] → nullGuard = nullGuard') := by
  induction parts generalizing parts' with
  | nil => simp_all [eq_comm]
  | cons part parts ih =>
    cases parts' with
    | nil => cases same
    | cons part' parts' =>
      rw [List.forall_mem_cons] at numeric numeric'
      obtain ⟨first, later⟩ := List.cons.inj same
      obtain ⟨rfl, guards⟩ := comparisonOf_injective numeric.1 numeric'.1 first
      obtain ⟨rfl, -⟩ := ih numeric.2 numeric'.2 later
      exact ⟨rfl, fun _ => guards⟩

/-- Two tables have the same text of comparators exactly if their numeric entries have the same tags, the
same ways of comparing and the same spellings, and, unless there are none, the guard is the same. -/
theorem sourceText_comparators_eq_iff (t t' : TypeTable) (nullGuard nullGuard' : Bool) :
    sourceText .definitions (comparators nullGuard t) = sourceText .definitions (comparators nullGuard' t') ↔
      t.numericParts = t'.numericParts ∧ (t.numericParts ≠ [] → nullGuard = nullGuard') := by
  constructor
  · intro same
    have bodies := sourceText_comparators_injective same
    rw [comparisons_eq_map, comparisons_eq_map] at bodies
    exact map_comparisonOf_injective t.numericParts_numeric t'.numericParts_numeric bodies
  · rintro ⟨parts, guards⟩
    rw [comparators_eq_map, comparators_eq_map, comparisons_eq_map, comparisons_eq_map, ← parts]
    by_cases empty : t.numericParts = []
    · rw [empty]
      rfl
    · rw [guards empty]

end CollectionGlue
