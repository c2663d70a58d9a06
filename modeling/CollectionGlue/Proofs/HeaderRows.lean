import CollectionGlue.Proofs.TextRows

/-! # The definitions hold their own header

A row that stands at the left margin and opens a brace is the signature of a function: the rows of a body
are indented or blank, and the row that closes it ends in a brace of the other kind. So the header of a
source text can be read off the text itself, and it is the text that the same functions give as prototypes.
-/
namespace CollectionGlue

/-- A row at the left margin that opens a brace behind a space. -/
def opensFunction (row : List Char) : Bool := row.head? != some ' ' && [' ', '\x7b'].isSuffixOf row

/-- The row with a semicolon in place of its last two characters. -/
def prototypeRow (row : List Char) : List Char := row.take (row.length - 2) ++ [';']

/-- The rows of a text that open a function, in order, each with a semicolon in place of its brace. -/
def headerText (source : String) : String :=
  String.ofList (((source.toList.splitOn '\n').filter opensFunction).flatMap fun row => prototypeRow row ++ ['\n'])

/-- No string of the function holds a line break, and its return type begins at the left margin. -/
structure CFunction.Declarable (f : CFunction) : Prop where
  unbroken : f.Unbroken
  returns : f.returnType ≠ ""
  unindented : ¬" ".toList <+: f.returnType.toList

@[simp] theorem opensFunction_nil : opensFunction [] = false := rfl

private theorem opensFunction_indented (depth : Nat) (content : String) :
    opensFunction (Line.mk (depth + 1) content).row = false := by
  have head : (Line.mk (depth + 1) content).row.head? = some ' ' := by
    rw [Line.row, String.toList_append, toList_indentation, show 4 * (depth + 1) = 4 * depth + 3 + 1 from rfl,
      List.replicate_succ]
    rfl
  simp [opensFunction, head]

private theorem opensFunction_guard (nullGuard : Bool) :
    ∀ l ∈ guardLines nullGuard, opensFunction l.row = false := by
  cases nullGuard with
  | false => intro l mem; cases mem
  | true => decide

theorem opensFunction_body (b : Body) : ∀ l ∈ b.lines, opensFunction l.row = false := by
  have inner := opensFunction_indented
  have blank : opensFunction Line.blank.row = false := rfl
  cases b with
  | subtraction cType nullGuard =>
    rw [Body.lines, List.forall_mem_append, List.forall_mem_singleton]
    exact ⟨opensFunction_guard nullGuard, inner 0 _⟩
  | branching cType nullGuard =>
    rw [Body.lines, List.forall_mem_append]
    refine ⟨opensFunction_guard nullGuard, ?_⟩
    simp only [List.forall_mem_cons, inner 0, inner 1, blank]
    exact ⟨trivial, trivial, trivial, trivial, trivial, trivial, trivial, trivial, List.forall_mem_nil _⟩
  | dictionary key value =>
    simp only [Body.lines, List.forall_mem_cons, inner 0, inner 1]
    exact ⟨trivial, trivial, trivial, trivial, trivial, List.forall_mem_nil _⟩

theorem CFunction.Declarable.opens {f : CFunction} (h : f.Declarable) :
    opensFunction (f.signature ++ " \x7b").toList = true := by
  have ending : [' ', '\x7b'].isSuffixOf (f.signature ++ " \x7b").toList = true := by
    rw [List.isSuffixOf_iff_suffix, String.toList_append]
    exact List.suffix_append _ _
  obtain ⟨c, rest, text⟩ : ∃ c rest, f.returnType.toList = c :: rest :=
    List.exists_cons_of_ne_nil fun empty => h.returns (String.toList_eq_nil_iff.1 empty)
  have margin : c ≠ ' ' := by
    rintro rfl
    exact h.unindented ⟨rest, text.symm⟩
  have head : (f.signature ++ " \x7b").toList.head? = some c := by
    simp [CFunction.signature, text]
  rw [opensFunction, head, ending]
  simpa using margin

private theorem prototypeRow_signature (signature : String) :
    prototypeRow (signature ++ " \x7b").toList = (signature ++ ";").toList := by
  simp [prototypeRow]

/-- Of the rows of a definition only the signature opens a function. -/
theorem CFunction.Declarable.filter_rows {f : CFunction} (h : f.Declarable) :
    ((f.lines .definitions).map Line.row).filter opensFunction = [(f.signature ++ " \x7b").toList] := by
  have body : (f.body.lines.map Line.row).filter opensFunction = [] := by
    rw [List.filter_eq_nil_iff, List.forall_mem_map]
    exact fun l mem => by simp [opensFunction_body f.body l mem]
  have last : ([⟨0, "\x7d"⟩, Line.blank].map Line.row).filter opensFunction = [] := by decide
  rw [CFunction.lines, List.map_append, List.map_cons, List.filter_append, List.filter_cons, row_margin, h.opens, body,
    last]
  rfl

theorem toList_prototypes (functions : List CFunction) :
    (sourceText .prototypes functions).toList = functions.flatMap fun f => (f.signature ++ ";").toList ++ ['\n'] := by
  rw [sourceText, linesText, String.toList_join, List.flatMap_map, List.flatMap_assoc]
  refine List.flatMap_congr fun f _ => ?_
  simp [CFunction.lines, Line.text, indentation]

private theorem filter_rows_definitions {functions : List CFunction} (declarable : ∀ f ∈ functions, f.Declarable) :
    ((sourceText .definitions functions).toList.splitOn '\n').filter opensFunction =
      functions.map fun f => (f.signature ++ " \x7b").toList := by
  rw [sourceText, splitOn_linesText (unbroken_sourceLines (fun f mem => (declarable f mem).unbroken) .definitions),
    List.map_flatMap, List.filter_append, List.filter_flatMap, List.filter_singleton, opensFunction_nil]
  induction functions with
  | nil => rfl
  | cons f functions ih =>
    rw [List.forall_mem_cons] at declarable
    rw [List.flatMap_cons, declarable.1.filter_rows, List.map_cons, List.singleton_append, List.cons_append,
      ih declarable.2]

private theorem sourceText_prototypes {functions : List CFunction} (declarable : ∀ f ∈ functions, f.Declarable) :
    sourceText .prototypes functions = headerText (sourceText .definitions functions) := by
  rw [← String.toList_inj, headerText, filter_rows_definitions declarable, toList_prototypes, String.toList_ofList,
    List.flatMap_map]
  exact List.flatMap_congr fun f _ => by rw [prototypeRow_signature]

private theorem declarable_of_mem_comparators {nullGuard : Bool} {t : TypeTable} {f : CFunction}
    (mem : f ∈ comparators nullGuard t) : f.Declarable := by
  have unbroken := unbroken_comparators nullGuard t f mem
  obtain ⟨e, -, made⟩ := List.mem_filterMap.1 mem
  obtain ⟨body, -, rfl⟩ := Option.map_eq_some_iff.1 made
  exact ⟨unbroken, show "int" ≠ "" by decide, show ¬" ".toList <+: "int".toList by decide⟩

private theorem declarable_of_mem_dictionaryConstructors {t : TypeTable} {f : CFunction}
    (mem : f ∈ dictionaryConstructors t) : f.Declarable := by
  have unbroken := unbroken_dictionaryConstructors t f mem
  obtain ⟨key, -, value, -, rfl⟩ := mem_dictionaryConstructors.1 mem
  exact ⟨unbroken, show "dictionary*" ≠ "" by decide, show ¬" ".toList <+: "dictionary*".toList by decide⟩

/-- The prototypes of functions are the header of their definitions, whatever strings without line breaks the
functions are made of, and so for both kinds of functions of every table. -/
theorem prototypes_eq_headerText :
    (∀ functions : List CFunction, (∀ f ∈ functions, f.Declarable) →
      sourceText .prototypes functions = headerText (sourceText .definitions functions)) ∧
    ∀ t : TypeTable,
      (∀ nullGuard, sourceText .prototypes (comparators nullGuard t) =
        headerText (sourceText .definitions (comparators nullGuard t))) ∧
      sourceText .prototypes (dictionaryConstructors t) =
        headerText (sourceText .definitions (dictionaryConstructors t)) := by
  refine ⟨fun functions => sourceText_prototypes, fun t => ⟨fun nullGuard => ?_, ?_⟩⟩
  · exact sourceText_prototypes fun f mem => declarable_of_mem_comparators mem
  · exact sourceText_prototypes fun f mem => declarable_of_mem_dictionaryConstructors mem

/-- Functions with braces in all their strings. -/
def bracedFunctions : List CFunction := [
  ⟨"unsigned \x7b", "f \x7b", [⟨"int", "x \x7b"⟩, ⟨"\x7b *", "y"⟩], .subtraction " \x7b" true⟩,
  ⟨"\x7b", "g", [], .dictionary "k \x7b" " \x7b"⟩]

theorem prototypes_eq_headerText_braced :
    (∀ f ∈ bracedFunctions, f.Declarable) ∧
      sourceText .prototypes bracedFunctions = headerText (sourceText .definitions bracedFunctions) := by
  have declarable : ∀ f ∈ bracedFunctions, f.Declarable := by
    rw [bracedFunctions, List.forall_mem_cons, List.forall_mem_singleton]
    constructor
    · exact ⟨⟨by decide, by decide, by decide, show Unbroken " \x7b" by decide⟩, by decide, by decide⟩
    · refine ⟨⟨by decide, by decide, by decide, ?_⟩, by decide, by decide⟩
      exact ⟨show Unbroken "k \x7b" by decide, show Unbroken " \x7b" by decide⟩
  exact ⟨declarable, prototypes_eq_headerText.1 bracedFunctions declarable⟩

end CollectionGlue
