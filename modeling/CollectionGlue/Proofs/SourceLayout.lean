import CollectionGlue.Proofs.RecoveredEntries
import CollectionGlue.Proofs.RowLayout

/-! # Definitions are nested, indented and set apart

Row by row a definition is written from the state in which no bracket is open behind a blank row and comes
back to that state. Every row is indented by what is open before it, so whole texts are laid out like single
functions.
-/
namespace CollectionGlue

/-- Text that begins with a word. -/
structure WordText (text : List Char) : Prop where
  begins : ∃ first rest, text = first :: rest ∧ extendsIdentifier first = true
  words : ∀ c ∈ text, extendsIdentifier c = true ∨ c = ' '

private theorem takeWhile_row (depth : Nat) {content : String} {first : Char} {rest : List Char}
    (text : content.toList = first :: rest) (visible : first ≠ ' ') :
    (Line.mk depth content).row.takeWhile (· == ' ') = List.replicate (4 * depth) ' ' ∧
      (Line.mk depth content).row.dropWhile (· == ' ') = first :: rest := by
  have row : (Line.mk depth content).row = List.replicate (4 * depth) ' ' ++ first :: rest := by
    rw [Line.row, String.toList_append, toList_indentation, text]
  have spaces : ∀ c ∈ List.replicate (4 * depth) ' ', (c == ' ') = true := by simp
  rw [row, List.takeWhile_append_of_pos spaces, List.dropWhile_append_of_pos spaces]
  simp [visible]

/-- A line that begins with a word and stands as deep as its brackets say. -/
theorem RowStep.line {opened next : List OpenBracket} {depth : Nat} (content : String) {afterBlank : Bool}
    (begins : ∃ first rest, content.toList = first :: rest ∧ extendsIdentifier first = true)
    (tight : content.toList.getLast? ≠ some ' ') (deep : nestingLevel opened = depth)
    (nests : Nests opened content.toList next) :
    RowStep ⟨opened, afterBlank⟩ (Line.mk depth content).row ⟨next, false⟩ := by
  obtain ⟨first, rest, text, word⟩ := begins
  have apart {c : Char} (other : extendsIdentifier c = false) : first ≠ c := by
    rintro rfl
    rw [word] at other
    cases other
  obtain ⟨spaces, shown⟩ := takeWhile_row depth text (apart (by decide))
  refine .content ⟨?_, ?_, ?_⟩ ?_
  · simp [Line.row, text]
  · have closing : ¬(some first = some '\x7d' ∨ some first = some ')') := by
      simp [apart (show extendsIdentifier '\x7d' = false by decide),
        apart (show extendsIdentifier ')' = false by decide)]
    rw [spaces, shown, List.length_replicate, openedAt, List.head?_cons, if_neg closing, deep]
  · rwa [Line.row, String.toList_append, List.getLast?_append_of_ne_nil _ (by simp [text])]
  · rw [Line.row, String.toList_append, toList_indentation]
    exact (Nests.words (by simp) opened).append nests

theorem WordText.of_identifier {text : List Char} (h : IdentifierText text) : WordText text where
  begins := by
    obtain ⟨first, rest, rfl, start, -⟩ := h
    exact ⟨first, rest, rfl, (extendsIdentifier_iff first).2 (.inl start)⟩
  words := fun c mem => .inl ((extendsIdentifier_iff c).2 (h.all_part c mem))

private theorem WordText.of_typeSpelling {text : List Char} (h : isTypeSpelling text = true) : WordText text where
  begins := by
    cases text with
    | nil => cases h
    | cons c text =>
      rw [isTypeSpelling, scansWords, if_neg Bool.false_ne_true, Bool.and_eq_true] at h
      exact ⟨c, text, rfl, opensIdentifier_extends h.1⟩
  words := scansWords_all h

private theorem rowRun_guardLines (nullGuard : Bool) :
    RowRun ⟨[.brace], false⟩ ((guardLines nullGuard).map Line.row) ⟨[.brace], nullGuard⟩ := by
  cases nullGuard with
  | false => exact .nil _
  | true =>
    have opens : RowStep ⟨[.brace], false⟩ (Line.mk 1 "if ( !a && !b ) \x7b").row ⟨[.brace, .brace], false⟩ :=
      .content (by decide) fun _ => ⟨_, rfl⟩
    have equal : RowStep ⟨[.brace, .brace], false⟩ (Line.mk 2 "return 0;").row ⟨[.brace, .brace], false⟩ :=
      .content (by decide) fun _ => ⟨_, rfl⟩
    have turns : RowStep ⟨[.brace, .brace], false⟩ (Line.mk 1 "\x7d else if ( !a || !b ) \x7b").row
        ⟨[.brace, .brace], false⟩ := .content (by decide) fun _ => ⟨_, rfl⟩
    have unequal : RowStep ⟨[.brace, .brace], false⟩ (Line.mk 2 "return (!a) ? -1 : 1;").row
        ⟨[.brace, .brace], false⟩ := .content (by decide) fun _ => ⟨_, rfl⟩
    have closes : RowStep ⟨[.brace, .brace], false⟩ (Line.mk 1 "\x7d").row ⟨[.brace], false⟩ :=
      .content (by decide) fun _ => ⟨_, rfl⟩
    exact .cons opens (.cons equal (.cons turns (.cons unequal (.cons closes (.cons (.blank _) (.nil _))))))

private theorem tight_append {front ending : List Char} (some_ending : ending ≠ [])
    (tight : ending.getLast? ≠ some ' ') : (front ++ ending).getLast? ≠ some ' ' := by
  rwa [List.getLast?_append_of_ne_nil _ some_ending]

private theorem rowStep_difference {cType : String} (type : WordText cType.toList) (afterBlank : Bool) :
    RowStep ⟨[.brace], afterBlank⟩ (differenceLine cType).row ⟨[.brace], false⟩ := by
  have content : (differenceLine cType).content.toList = "return *((".toList ++ cType.toList ++
      "*) a) - *((".toList ++ cType.toList ++ "*) b);".toList := by
    simp [differenceLine, dereferenced]
  have first : Nests [.brace] "return *((".toList [.group, .group, .brace] := fun _ => ⟨_, rfl⟩
  have second : Nests [.group, .group, .brace] "*) a) - *((".toList [.group, .group, .brace] := fun _ => ⟨_, rfl⟩
  have third : Nests [.group, .group, .brace] "*) b);".toList [.brace] := fun _ => ⟨_, rfl⟩
  have spelling := Nests.words type.words [.group, .group, .brace]
  refine RowStep.line (differenceLine cType).content ?_ ?_ rfl ?_ <;> rw [content]
  · exact ⟨_, _, rfl, by decide⟩
  · exact tight_append (by decide) (by decide)
  · exact (((first.append spelling).append second).append spelling).append third

/-- A pointer's name and its copy's are words. -/
theorem rowStep_copy {cType : String} (copy pointer : String) (type : WordText cType.toList)
    (named : copy.toList.all extendsIdentifier = true) (pointed : pointer.toList.all extendsIdentifier = true)
    (afterBlank : Bool) :
    RowStep ⟨[.brace], afterBlank⟩ (copyLine cType copy pointer).row ⟨[.brace], false⟩ := by
  have content : (copyLine cType copy pointer).content.toList = cType.toList ++ " ".toList ++ copy.toList ++
      " = *((".toList ++ cType.toList ++ "*) ".toList ++ pointer.toList ++ ");".toList := by
    simp [copyLine, dereferenced]
  have space : Nests [.brace] " ".toList [.brace] := fun _ => ⟨_, rfl⟩
  have opens : Nests [.brace] " = *((".toList [.group, .group, .brace] := fun _ => ⟨_, rfl⟩
  have cast : Nests [.group, .group, .brace] "*) ".toList [.group, .brace] := fun _ => ⟨_, rfl⟩
  have closes : Nests [.group, .brace] ");".toList [.brace] := fun _ => ⟨_, rfl⟩
  have name {text : List Char} (all : text.all extendsIdentifier = true) (opened : List OpenBracket) :
      Nests opened text opened := .words (fun c mem => .inl (List.all_eq_true.1 all c mem)) opened
  have spelling := Nests.words type.words
  refine RowStep.line (copyLine cType copy pointer).content ?_ ?_ rfl ?_ <;> rw [content]
  · obtain ⟨first, rest, text, word⟩ := type.begins
    exact ⟨first, _, by rw [text]; rfl, word⟩
  · exact tight_append (by decide) (by decide)
  · exact (((((((spelling _).append space).append (name named _)).append opens).append (spelling _)).append cast).append
      (name pointed _)).append closes

private theorem rowStep_roles {tag : String} (h : IdentifierText tag.toList) (role role' : Role) {ending : String}
    (nests : Nests [.call, .brace] ending.toList [.call, .brace])
    (tight : ((roleSymbol tag role').toList ++ ending.toList).getLast? ≠ some ' ') :
    RowStep ⟨[.call, .brace], false⟩ (Line.mk 2 (roleSymbol tag role ++ ", " ++ roleSymbol tag role' ++ ending)).row
      ⟨[.call, .brace], false⟩ := by
  have content : (roleSymbol tag role ++ ", " ++ roleSymbol tag role' ++ ending).toList =
      (roleSymbol tag role).toList ++ ", ".toList ++ ((roleSymbol tag role').toList ++ ending.toList) := by
    simp only [String.toList_append, List.append_assoc]
  have comma : Nests [.call, .brace] ", ".toList [.call, .brace] := fun _ => ⟨_, rfl⟩
  have symbol (r : Role) := WordText.of_identifier (identifierText_roleSymbol h r)
  have first := Nests.words (symbol role).words [.call, .brace]
  have second := Nests.words (symbol role').words [.call, .brace]
  refine RowStep.line _ ?_ ?_ rfl ?_ <;> rw [content]
  · obtain ⟨c, rest, text, word⟩ := (symbol role).begins
    exact ⟨c, _, by rw [text]; rfl, word⟩
  · exact tight_append (by simp [(identifierText_roleSymbol h role').ne_nil]) tight
  · exact (first.append comma).append (second.append nests)

/-- The strings of a body are words. -/
def Body.Worded : Body → Prop
  | .subtraction cType _ | .branching cType _ => WordText cType.toList
  | .dictionary key value => IdentifierText key.toList ∧ IdentifierText value.toList

private theorem rowRun_comparisonLines {b : Body} (worded : b.Worded) (afterBlank : Bool) :
    RowRun ⟨[.brace], afterBlank⟩ (b.comparisonLines.map Line.row) ⟨[.brace], false⟩ := by
  cases b with
  | subtraction cType nullGuard => exact .cons (rowStep_difference worded afterBlank) (.nil _)
  | branching cType nullGuard =>
    have copyA := rowStep_copy "aa" "a" worded (by decide) (by decide) afterBlank
    have copyB := rowStep_copy "bb" "b" worded (by decide) (by decide) false
    have opens : RowStep ⟨[.brace], true⟩ (Line.mk 1 "if ( aa == bb ) \x7b").row ⟨[.brace, .brace], false⟩ :=
      .content (by decide) fun _ => ⟨_, rfl⟩
    have equal : RowStep ⟨[.brace, .brace], false⟩ (Line.mk 2 "return 0;").row ⟨[.brace, .brace], false⟩ :=
      .content (by decide) fun _ => ⟨_, rfl⟩
    have closes : RowStep ⟨[.brace, .brace], false⟩ (Line.mk 1 "\x7d").row ⟨[.brace], false⟩ :=
      .content (by decide) fun _ => ⟨_, rfl⟩
    have unequal : RowStep ⟨[.brace], true⟩ (Line.mk 1 "return aa < bb ? -1 : 1;").row ⟨[.brace], false⟩ :=
      .content (by decide) fun _ => ⟨_, rfl⟩
    exact .cons copyA (.cons copyB (.cons (.blank _) (.cons opens (.cons equal (.cons closes
      (.cons (.blank _) (.cons unequal (.nil _))))))))
  | dictionary key value =>
    obtain ⟨hkey, hvalue⟩ := worded
    have comma : Nests [.call, .brace] ",".toList [.call, .brace] := fun _ => ⟨_, rfl⟩
    have none : Nests [.call, .brace] "".toList [.call, .brace] := fun _ => ⟨_, rfl⟩
    have calls : RowStep ⟨[.brace], afterBlank⟩ (Line.mk 1 "return dictionary_create(").row
        ⟨[.call, .brace], false⟩ :=
      .content (by decide) fun _ => ⟨_, rfl⟩
    have first := rowStep_roles hkey .hashFunction .compare comma (tight_append (by decide) (by decide))
    have second := rowStep_roles hkey .copyConstructor .destructor comma (tight_append (by decide) (by decide))
    have third := rowStep_roles hvalue .copyConstructor .destructor none
      (by rw [toList_roleSymbol, List.append_assoc]; exact tight_append (by decide) (by decide))
    have closes : RowStep ⟨[.call, .brace], false⟩ (Line.mk 1 ");").row ⟨[.brace], false⟩ :=
      .content (by decide) fun _ => ⟨_, rfl⟩
    rw [String.append_empty] at third
    exact .cons calls (.cons first (.cons second (.cons third (.cons closes (.nil _)))))

theorem definitionRows_eq (f : CFunction) : definitionRows f = (f.signature ++ " \x7b").toList ::
    ((guardLines f.body.isGuarded).map Line.row ++ (f.body.comparisonLines.map Line.row ++ [['\x7d'], []])) := by
  rw [← List.append_nil (definitionRows f), definitionRows_append]

/-- The guard ends with a blank row, so the comparison behind it begins in either state. -/
theorem rowRun_definitionRows {f : CFunction} (worded : f.body.Worded)
    (signature : RowStep ⟨[], true⟩ (Line.mk 0 (f.signature ++ " \x7b")).row ⟨[.brace], false⟩) :
    RowRun ⟨[], true⟩ (definitionRows f) ⟨[], true⟩ := by
  have closes : RowStep ⟨[.brace], false⟩ ['\x7d'] ⟨[], false⟩ := .content (by decide) fun _ => ⟨_, rfl⟩
  have ending : RowRun ⟨[.brace], false⟩ [['\x7d'], []] ⟨[], true⟩ := .cons closes (.cons (.blank []) (.nil _))
  rw [definitionRows_eq, ← row_margin]
  exact .cons signature (RowRun.append_iff.2 ⟨_, rowRun_guardLines _,
    RowRun.append_iff.2 ⟨_, rowRun_comparisonLines worded _, ending⟩⟩)

private theorem rowStep_comparatorSignature {tag : String} (h : IdentifierText tag.toList) (body : Body) :
    RowStep ⟨[], true⟩ (Line.mk 0 ((comparatorOf tag body).signature ++ " \x7b")).row ⟨[.brace], false⟩ := by
  have type : Nests [] "int ".toList [] := fun _ => ⟨_, rfl⟩
  have rest : Nests [] "_compare(void *a, void *b) \x7b".toList [.brace] := fun _ => ⟨_, rfl⟩
  have name := Nests.words (WordText.of_identifier h).words []
  refine RowStep.line _ ?_ ?_ rfl ?_ <;> rw [toList_signature_comparatorOf, ← List.append_assoc]
  · exact ⟨_, _, rfl, by decide⟩
  · exact tight_append (by decide) (by decide)
  · exact (type.append name).append rest

private theorem rowStep_constructorSignature {key value : String} (hkey : IdentifierText key.toList)
    (hvalue : IdentifierText value.toList) :
    RowStep ⟨[], true⟩ (Line.mk 0 ((dictionaryConstructor key value).signature ++ " \x7b")).row
      ⟨[.brace], false⟩ := by
  have content : ((dictionaryConstructor key value).signature ++ " \x7b").toList = "dictionary* ".toList ++ key.toList ++
      "_to_".toList ++ value.toList ++ "_dictionary_create(void) \x7b".toList := by
    simp [CFunction.signature, dictionaryConstructor, parameterList, constructorSymbol]
  have type : Nests [] "dictionary* ".toList [] := fun _ => ⟨_, rfl⟩
  have joint : Nests [] "_to_".toList [] := fun _ => ⟨_, rfl⟩
  have rest : Nests [] "_dictionary_create(void) \x7b".toList [.brace] := fun _ => ⟨_, rfl⟩
  have keyName := Nests.words (WordText.of_identifier hkey).words []
  have valueName := Nests.words (WordText.of_identifier hvalue).words []
  refine RowStep.line _ ?_ ?_ rfl ?_ <;> rw [content]
  · exact ⟨_, _, rfl, by decide⟩
  · exact tight_append (by decide) (by decide)
  · exact (((type.append keyName).append joint).append valueName).append rest

private theorem rowRun_of_mem_comparators {nullGuard : Bool} {t : TypeTable} {f : CFunction}
    (mem : f ∈ comparators nullGuard t) : RowRun ⟨[], true⟩ (definitionRows f) ⟨[], true⟩ := by
  obtain ⟨e, he, made⟩ := List.mem_filterMap.1 mem
  obtain ⟨body, compared, rfl⟩ := Option.map_eq_some_iff.1 made
  have spelling : WordText e.spelling.toList := .of_typeSpelling (t.isTypeSpelling_spelling he)
  have worded : body.Worded := by
    rcases comparisonBody?_eq_some compared with ⟨-, rfl⟩ | ⟨-, rfl⟩
    · exact spelling
    · exact spelling
  exact rowRun_definitionRows worded (rowStep_comparatorSignature (t.identifierText_tag he) body)

private theorem rowRun_of_mem_dictionaryConstructors {t : TypeTable} {f : CFunction}
    (mem : f ∈ dictionaryConstructors t) : RowRun ⟨[], true⟩ (definitionRows f) ⟨[], true⟩ := by
  obtain ⟨key, hk, value, hv, rfl⟩ := mem_dictionaryConstructors.1 mem
  have hkey := t.identifierText_tag hk
  have hvalue := t.identifierText_tag hv
  have worded : (dictionaryConstructor key.tag value.tag).body.Worded := ⟨hkey, hvalue⟩
  exact rowRun_definitionRows worded (rowStep_constructorSignature hkey hvalue)

theorem toList_definitions (functions : List CFunction) :
    (sourceText .definitions functions).toList = rowsText (functions.flatMap definitionRows) := by
  rw [sourceText, toList_linesText, List.map_flatMap]
  rfl

theorem splitOn_definitions {functions : List CFunction} (unbroken : ∀ f ∈ functions, f.Unbroken) :
    (sourceText .definitions functions).toList.splitOn '\n' = functions.flatMap definitionRows ++ [[]] := by
  rw [sourceText, splitOn_linesText (unbroken_sourceLines unbroken .definitions), List.map_flatMap]
  rfl

/-- A definition opens with its signature and ends with the closing brace and a blank row. -/
theorem definitionRows_ending (f : CFunction) :
    ∃ first rows, definitionRows f = first :: rows ++ [['\x7d']] ++ [[]] := by
  refine ⟨(f.signature ++ " \x7b").toList, (guardLines f.body.isGuarded).map Line.row ++
    f.body.comparisonLines.map Line.row, ?_⟩
  rw [definitionRows_eq]
  simp

/-- What holds of a text of definitions. The brackets are nested. Every row is blank or is placed by what is open
before it. No two blank rows follow each other and none stands first. Each definition ends with a brace on a row
of its own, leaves nothing open, and one blank row sets it apart from what follows. -/
structure WellLaidOut (functions : List CFunction) : Prop where
  nested : openAfter (sourceText .definitions functions).toList = some []
  placed : ∀ earlier row later, rowsOf (sourceText .definitions functions) = earlier ++ row :: later →
    ∃ opened, openAfter (rowsText earlier) = some opened ∧ (row = [] ∨ Placed opened row)
  no_three_breaks : ¬['\n', '\n', '\n'] <:+: (sourceText .definitions functions).toList
  no_first_break : (sourceText .definitions functions).toList.head? ≠ some '\n'
  ending : sourceText .definitions functions = "" ∨
    ['\x7d', '\n', '\n'] <:+ (sourceText .definitions functions).toList
  set_apart : ∀ earlier f later, functions = earlier ++ f :: later → ∃ definition,
    (sourceText .definitions [f]).toList = definition ++ ['\n'] ∧
    (sourceText .definitions functions).toList = (sourceText .definitions earlier).toList ++ definition ++
      '\n' :: (sourceText .definitions later).toList ∧
    ['\n', '\x7d', '\n'] <:+ definition ∧
    openAfter ((sourceText .definitions earlier).toList ++ definition) = some [] ∧
    (sourceText .definitions later).toList.head? ≠ some '\n'

/-- What each function of a text contributes. -/
structure CFunction.LaidOut (f : CFunction) : Prop where
  unbroken : f.Unbroken
  run : RowRun ⟨[], true⟩ (definitionRows f) ⟨[], true⟩

section
variable {functions : List CFunction} (each : ∀ f ∈ functions, f.LaidOut)
include each

private theorem rowRun_functions : RowRun ⟨[], true⟩ (functions.flatMap definitionRows) ⟨[], true⟩ :=
  .flatMap fun f mem => (each f mem).run

private theorem nests_definitions : Nests [] (sourceText .definitions functions).toList [] := by
  rw [toList_definitions]
  exact (rowRun_functions each).nests

private theorem head_definitions : (sourceText .definitions functions).toList.head? ≠ some '\n' :=
  no_first_break_of_rows (splitOn_definitions fun f mem => (each f mem).unbroken) (rowRun_functions each).first_ne_nil

end

/-- A definition's text up to its closing brace. -/
theorem CFunction.LaidOut.definition {f : CFunction} (h : f.LaidOut) : ∃ definition,
    rowsText (definitionRows f) = definition ++ ['\n'] ∧ ['\n', '\x7d', '\n'] <:+ definition ∧
      Nests [] definition [] := by
  obtain ⟨first, rows, split⟩ := definitionRows_ending f
  have run := h.run
  rw [split] at run
  obtain ⟨s, before, last⟩ := RowRun.append_iff.1 run
  refine ⟨rowsText (first :: rows ++ [['\x7d']]), ?_, ?_, ?_⟩
  · rw [split, rowsText_concat, List.append_nil]
  · obtain ⟨front, ends⟩ := lineBreak_suffix_rowsText (List.cons_ne_nil first rows)
    rw [rowsText_concat, ← ends]
    exact ⟨front, by simp⟩
  · cases last with
    | cons step rest =>
      cases rest
      cases step with
      | blank => exact before.nests

private theorem wellLaidOut_of_laidOut {functions : List CFunction} (each : ∀ f ∈ functions, f.LaidOut) :
    WellLaidOut functions where
  nested := (nests_definitions each).openAfter_eq
  placed := by
    intro earlier row later split
    rw [rowsOf_sourceText fun f mem => (each f mem).unbroken] at split
    obtain ⟨opened, nests, shown⟩ := (rowRun_functions each).placed split
    exact ⟨opened, nests.openAfter_eq, shown⟩
  no_three_breaks :=
    no_three_breaks_of_rows (splitOn_definitions fun f mem => (each f mem).unbroken) (rowRun_functions each).no_gap
  no_first_break := head_definitions each
  ending := by
    rcases List.eq_nil_or_concat functions with rfl | ⟨front, f, rfl⟩
    · exact .inl rfl
    · right
      obtain ⟨definition, text, ⟨body, ends⟩, -⟩ := (each f (by simp)).definition
      have whole : (sourceText .definitions (front.concat f)).toList =
          (rowsText (front.flatMap definitionRows) ++ body ++ ['\n']) ++ ['\x7d', '\n', '\n'] := by
        rw [toList_definitions, List.concat_eq_append, List.flatMap_append, List.flatMap_singleton, rowsText_append, text,
          ← ends]
        simp
      exact ⟨_, whole.symm⟩
  set_apart := by
    rintro earlier f later rfl
    rw [List.forall_mem_append, List.forall_mem_cons] at each
    obtain ⟨definition, text, ends, nests⟩ := each.2.1.definition
    refine ⟨definition, ?_, ?_, ends, ?_, head_definitions each.2.2⟩
    · rw [toList_definitions, List.flatMap_singleton, text]
    · simp [toList_definitions, rowsText_append, text]
    · exact ((nests_definitions each.1).append nests).openAfter_eq

/-- The definitions that are made from a table are well laid out, whatever its tags and spellings are. -/
theorem wellLaidOut_definitions (t : TypeTable) (nullGuard : Bool) :
    WellLaidOut (comparators nullGuard t) ∧ WellLaidOut (dictionaryConstructors t) := by
  constructor
  · exact wellLaidOut_of_laidOut fun f mem =>
      ⟨unbroken_comparators nullGuard t f mem, rowRun_of_mem_comparators mem⟩
  · exact wellLaidOut_of_laidOut fun f mem =>
      ⟨unbroken_dictionaryConstructors t f mem, rowRun_of_mem_dictionaryConstructors mem⟩

end CollectionGlue
