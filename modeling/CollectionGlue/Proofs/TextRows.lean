import CollectionGlue.Proofs.SymbolHygiene
import Mathlib.Data.List.Infix

/-! # The rows of a generated text

Cutting a text at its line breaks gives back the lines it was written from, as long as no line holds a
line break of its own. The lines of a function hold none if its strings hold none, and the strings that
come from a type table never do.
-/
namespace CollectionGlue

def Unbroken (text : String) : Prop := '\n' ∉ text.toList

@[simp] theorem unbroken_append {text more : String} :
    Unbroken (text ++ more) ↔ Unbroken text ∧ Unbroken more := by
  simp [Unbroken]

instance (text : String) : Decidable (Unbroken text) := inferInstanceAs (Decidable (¬_))

/-- A line as it stands in the text, without its line break. -/
def Line.row (l : Line) : List Char := (indentation l.depth ++ l.content).toList

/-- What stands before each line break of a text. -/
def rowsOf (text : String) : List (List Char) := (text.toList.splitOn '\n').dropLast

/-- The text of some rows, each with its line break. -/
def rowsText (rows : List (List Char)) : List Char := rows.flatMap (· ++ ['\n'])

theorem toList_indentation (depth : Nat) : (indentation depth).toList = List.replicate (4 * depth) ' ' := by
  rw [indentation, String.toList_join]
  induction depth with
  | zero => rfl
  | succ depth ih =>
    rw [List.replicate_succ, List.flatMap_cons, ih, Nat.mul_succ, Nat.add_comm, List.replicate_add]
    rfl

private theorem unbroken_indentation (depth : Nat) : Unbroken (indentation depth) := by
  simp [Unbroken, toList_indentation]

theorem row_margin (content : String) : (Line.mk 0 content).row = content.toList := by
  simp [Line.row, indentation]

private theorem toList_linesText_cons (l : Line) (lines : List Line) :
    (linesText (l :: lines)).toList = l.row ++ '\n' :: (linesText lines).toList := by
  simp [linesText, Line.text, Line.row]

theorem toList_linesText (lines : List Line) : (linesText lines).toList = rowsText (lines.map Line.row) := by
  induction lines with
  | nil => rfl
  | cons l lines ih =>
    rw [toList_linesText_cons, ih, rowsText, rowsText, List.map_cons, List.flatMap_cons, List.append_assoc]
    rfl

theorem rowsText_append (rows more : List (List Char)) : rowsText (rows ++ more) = rowsText rows ++ rowsText more :=
  List.flatMap_append

theorem rowsText_concat (rows : List (List Char)) (row : List Char) :
    rowsText (rows ++ [row]) = rowsText rows ++ row ++ ['\n'] := by
  rw [rowsText_append, List.append_assoc]
  simp [rowsText]

theorem lineBreak_suffix_rowsText {rows : List (List Char)} (some_row : rows ≠ []) : ['\n'] <:+ rowsText rows := by
  obtain ⟨front, last, rfl⟩ := (List.eq_nil_or_concat rows).resolve_left some_row
  rw [List.concat_eq_append, rowsText_concat]
  exact List.suffix_append _ _

theorem splitOn_row_append {row : List Char} (unbroken : '\n' ∉ row) (text : List Char) :
    (row ++ '\n' :: text).splitOn '\n' = row :: text.splitOn '\n' := by
  apply List.splitOnP_append_cons_of_forall_mem
  · intro c mem
    simpa using fun same : c = '\n' => unbroken (same ▸ mem)
  · rfl

/-- Cutting at the line breaks undoes the writing of lines; nothing stands behind the last break. -/
theorem splitOn_linesText {lines : List Line} (unbroken : ∀ l ∈ lines, Unbroken l.content) :
    (linesText lines).toList.splitOn '\n' = lines.map Line.row ++ [[]] := by
  induction lines with
  | nil => rfl
  | cons l lines ih =>
    have row : '\n' ∉ l.row :=
      unbroken_append.2 ⟨unbroken_indentation l.depth, unbroken l List.mem_cons_self⟩
    rw [toList_linesText_cons, splitOn_row_append row, ih fun later mem => unbroken later (List.mem_cons_of_mem l mem),
      List.map_cons, List.cons_append]

private theorem rowsOf_linesText {lines : List Line} (unbroken : ∀ l ∈ lines, Unbroken l.content) :
    rowsOf (linesText lines) = lines.map Line.row := by
  rw [rowsOf, splitOn_linesText unbroken, List.dropLast_concat]

def Body.Unbroken : Body → Prop
  | .subtraction cType _ | .branching cType _ => CollectionGlue.Unbroken cType
  | .dictionary key value => CollectionGlue.Unbroken key ∧ CollectionGlue.Unbroken value

/-- No string of the function holds a line break. -/
structure CFunction.Unbroken (f : CFunction) : Prop where
  returnType : CollectionGlue.Unbroken f.returnType
  name : CollectionGlue.Unbroken f.name
  parameters : ∀ p ∈ f.parameters, CollectionGlue.Unbroken p.type ∧ CollectionGlue.Unbroken p.name
  body : f.body.Unbroken

private theorem unbroken_intercalate {separator : String} {texts : List String} (joint : Unbroken separator)
    (parts : ∀ text ∈ texts, Unbroken text) : Unbroken (separator.intercalate texts) := by
  have lists : '\n' ∉ separator.toList.intercalate (texts.map String.toList) := by
    induction texts with
    | nil => simp [List.intercalate]
    | cons text texts ih =>
      have later := ih fun other mem => parts other (List.mem_cons_of_mem text mem)
      have first : '\n' ∉ text.toList := parts text List.mem_cons_self
      cases texts with
      | nil => simpa [List.intercalate] using first
      | cons other texts =>
        rw [List.map_cons, List.map_cons, List.intercalate_cons_cons, List.mem_append, List.mem_append]
        rintro ((mem | mem) | mem)
        · exact first mem
        · exact joint mem
        · exact later mem
  rwa [Unbroken, String.toList_intercalate]

private theorem Parameter.unbroken_text {p : Parameter} (type : Unbroken p.type) (name : Unbroken p.name) :
    Unbroken p.text := by
  have space : Unbroken " " := by decide
  unfold Parameter.text
  split <;> simp [type, name, space]

private theorem unbroken_parameterList {parameters : List Parameter}
    (h : ∀ p ∈ parameters, Unbroken p.type ∧ Unbroken p.name) : Unbroken (parameterList parameters) := by
  unfold parameterList
  split
  · decide
  · refine unbroken_intercalate (by decide) fun text mem => ?_
    obtain ⟨p, hp, rfl⟩ := List.mem_map.1 mem
    exact Parameter.unbroken_text (h p hp).1 (h p hp).2

theorem CFunction.Unbroken.signature {f : CFunction} (h : f.Unbroken) :
    CollectionGlue.Unbroken f.signature := by
  have list := unbroken_parameterList h.parameters
  simp only [CFunction.signature, unbroken_append, h.returnType, h.name, list]
  decide

private theorem unbroken_roleSymbol {tag : String} (h : Unbroken tag) (role : Role) :
    Unbroken (roleSymbol tag role) := by
  simp only [roleSymbol, suffixedSymbol, unbroken_append, h]
  cases role <;> decide

private theorem unbroken_guardLines (nullGuard : Bool) : ∀ l ∈ guardLines nullGuard, Unbroken l.content := by
  cases nullGuard with
  | false => intro l mem; cases mem
  | true => decide

theorem Body.Unbroken.lines {b : Body} (h : b.Unbroken) : ∀ l ∈ b.lines, CollectionGlue.Unbroken l.content := by
  cases b with
  | subtraction cType nullGuard =>
    have type : CollectionGlue.Unbroken cType := h
    rw [Body.lines, List.forall_mem_append]
    refine ⟨unbroken_guardLines nullGuard, ?_⟩
    simp only [List.forall_mem_singleton, dereferenced, unbroken_append, type]
    decide
  | branching cType nullGuard =>
    have type : CollectionGlue.Unbroken cType := h
    rw [Body.lines, List.forall_mem_append]
    refine ⟨unbroken_guardLines nullGuard, ?_⟩
    simp only [List.forall_mem_cons, dereferenced, unbroken_append, type]
    decide
  | dictionary key value =>
    have keySymbol (role : Role) : CollectionGlue.Unbroken (roleSymbol key role) := unbroken_roleSymbol h.1 role
    have valueSymbol (role : Role) : CollectionGlue.Unbroken (roleSymbol value role) := unbroken_roleSymbol h.2 role
    simp only [Body.lines, List.forall_mem_cons, unbroken_append, keySymbol, valueSymbol]
    decide

theorem CFunction.Unbroken.lines {f : CFunction} (h : f.Unbroken) (form : SourceForm) :
    ∀ l ∈ f.lines form, CollectionGlue.Unbroken l.content := by
  have signature := h.signature
  cases form with
  | prototypes =>
    simp only [CFunction.lines, List.forall_mem_singleton, unbroken_append, signature]
    decide
  | definitions =>
    simp only [CFunction.lines, List.forall_mem_cons, List.cons_append, List.forall_mem_append, unbroken_append,
      signature]
    exact ⟨⟨trivial, by decide⟩, h.body.lines, by decide⟩

theorem unbroken_sourceLines {functions : List CFunction} (unbroken : ∀ f ∈ functions, f.Unbroken)
    (form : SourceForm) : ∀ l ∈ functions.flatMap (CFunction.lines form), Unbroken l.content := by
  intro l mem
  obtain ⟨f, hf, hl⟩ := List.mem_flatMap.1 mem
  exact (unbroken f hf).lines form l hl

/-- The rows of a source text are the lines of its functions, one after the other. -/
theorem rowsOf_sourceText {functions : List CFunction} (unbroken : ∀ f ∈ functions, f.Unbroken)
    (form : SourceForm) :
    rowsOf (sourceText form functions) = functions.flatMap fun f => (f.lines form).map Line.row := by
  rw [sourceText, rowsOf_linesText (unbroken_sourceLines unbroken form), List.map_flatMap]

private theorem unbroken_of_identifierText {text : String} (h : IdentifierText text.toList) : Unbroken text := by
  intro mem
  have part := (extendsIdentifier_iff '\n').2 (h.all_part '\n' mem)
  exact absurd part (by decide)

theorem opensIdentifier_extends {c : Char} (h : opensIdentifier c = true) : extendsIdentifier c = true :=
  (extendsIdentifier_iff c).2 (.inl ((opensIdentifier_iff c).1 h))

/-- Only spaces part the words of a type spelling. -/
theorem scansWords_all {inWord : Bool} {text : List Char} (h : scansWords inWord text = true) :
    ∀ c ∈ text, extendsIdentifier c = true ∨ c = ' ' := by
  induction text generalizing inWord with
  | nil => simp
  | cons c text ih =>
    rw [List.forall_mem_cons]
    cases inWord with
    | false =>
      simp only [scansWords, Bool.false_eq_true, ↓reduceIte, Bool.and_eq_true] at h
      exact ⟨.inl (opensIdentifier_extends h.1), ih h.2⟩
    | true =>
      by_cases space : c = ' '
      · simp only [scansWords, space, ↓reduceIte, BEq.rfl] at h
        exact ⟨.inr space, ih h⟩
      · simp only [scansWords, ↓reduceIte, beq_iff_eq, space, Bool.and_eq_true] at h
        exact ⟨.inl h.1, ih h.2⟩

private theorem unbroken_of_isTypeSpelling {text : String} (h : isTypeSpelling text.toList = true) :
    Unbroken text := by
  intro mem
  rcases scansWords_all h '\n' mem with part | space
  · exact absurd part (by decide)
  · exact absurd space (by decide)

theorem TypeEntry.unbroken {e : TypeEntry} (valid : e.isValid = true) :
    Unbroken e.tag ∧ Unbroken e.spelling := by
  rw [TypeEntry.isValid, Bool.and_eq_true] at valid
  exact ⟨unbroken_of_identifierText ((isIdentifier_iff _).1 valid.1), unbroken_of_isTypeSpelling valid.2⟩

private theorem unbroken_of_comparator? {nullGuard : Bool} {e : TypeEntry} {f : CFunction} (valid : e.isValid = true)
    (made : comparator? nullGuard e = some f) : f.Unbroken := by
  obtain ⟨tag, spelling⟩ := e.unbroken valid
  obtain ⟨body, compared, rfl⟩ := Option.map_eq_some_iff.1 made
  have pointers : ∀ p ∈ [Parameter.mk "void *" "a", ⟨"void *", "b"⟩], Unbroken p.type ∧ Unbroken p.name := by
    decide
  refine ⟨show Unbroken "int" by decide, unbroken_roleSymbol tag .compare, pointers, ?_⟩
  rcases comparisonBody?_eq_some compared with ⟨-, rfl⟩ | ⟨-, rfl⟩
  · exact spelling
  · exact spelling

theorem unbroken_comparators (nullGuard : Bool) (t : TypeTable) :
    ∀ f ∈ comparators nullGuard t, f.Unbroken := by
  intro f mem
  obtain ⟨e, he, made⟩ := List.mem_filterMap.1 mem
  exact unbroken_of_comparator? (t.acceptable.valid e he) made

theorem unbroken_dictionaryConstructors (t : TypeTable) : ∀ f ∈ dictionaryConstructors t, f.Unbroken := by
  intro f mem
  obtain ⟨key, hk, value, hv, rfl⟩ := mem_dictionaryConstructors.1 mem
  have hkey := t.identifierText_tag hk
  have hvalue := t.identifierText_tag hv
  refine ⟨show Unbroken "dictionary*" by decide, ?_, fun p none => absurd none List.not_mem_nil,
    unbroken_of_identifierText hkey, unbroken_of_identifierText hvalue⟩
  exact unbroken_of_identifierText (identifierText_constructorSymbol hkey hvalue)

end CollectionGlue
