import CollectionGlue.Proofs.RecoveredTags
import CollectionGlue.Proofs.SeparateDefinitions

/-! # Which constructor stands where, and what it is wired to

The constructors stand in row-major order of their keys and values. The arguments of a call are read back from the
text as symbols; the name of a constructor only ends like that of the function it calls, so the call is found by
reading whole symbols.
-/
namespace CollectionGlue

/-- The symbols of a text up to its first closing parenthesis. -/
def argumentsOf (text : List Char) : List (List Char) := symbolsIn (text.takeWhile (· != ')'))

/-- The arguments of each call of `name`, which has to be a whole symbol before an opening parenthesis. `inSymbol`
tells whether a symbol goes on at the first character. -/
def callsFrom (name : List Char) (inSymbol : Bool) : List Char → List (List (List Char))
  | [] => []
  | c :: text =>
    if !inSymbol && (name ++ ['(']).isPrefixOf (c :: text) then
      argumentsOf ((c :: text).drop (name.length + 1)) :: callsFrom name (extendsIdentifier c) text
    else callsFrom name (extendsIdentifier c) text

/-- The arguments of the calls of a function in a text, call by call. -/
def callsIn (name source : String) : List (List String) :=
  (callsFrom name.toList false source.toList).map fun arguments => arguments.map String.ofList

/-- The definition is the constructor for a key and a value: so says its signature, and its one call of the library
function gets four functions of the key and two of the value. -/
structure Constructs (key value definition : String) : Prop where
  signature : ("dictionary* " ++ key ++ "_to_" ++ value ++ "_dictionary_create(void) \x7b\n").toList <+:
    definition.toList
  wiring : callsIn "dictionary_create" definition =
    [[key ++ "_hash_function", key ++ "_compare", key ++ "_copy_constructor", key ++ "_destructor",
      value ++ "_copy_constructor", value ++ "_destructor"]]

section
variable {name : List Char} (identifier : name.all extendsIdentifier = true) (some_name : name ≠ [])
include identifier some_name

private theorem callsFrom_sep {sep : Char} (apart : extendsIdentifier sep = false) (inSymbol : Bool)
    (text : List Char) : callsFrom name inSymbol (sep :: text) = callsFrom name false text := by
  have other : (name ++ ['(']).isPrefixOf (sep :: text) = false := by
    obtain ⟨c, rest, rfl⟩ := List.exists_cons_of_ne_nil some_name
    rw [Bool.eq_false_iff, Ne, List.isPrefixOf_iff_prefix]
    intro found
    obtain rfl : c = sep := (List.cons_prefix_cons.1 found).1
    rw [List.all_cons, apart] at identifier
    cases identifier
  rw [callsFrom, other, Bool.and_false, if_neg Bool.false_ne_true, apart]

private theorem callsFrom_gap {gap : List Char} (apart : gap.any extendsIdentifier = false) (text : List Char) :
    callsFrom name false (gap ++ text) = callsFrom name false text := by
  induction gap with
  | nil => rfl
  | cons c gap ih =>
    obtain ⟨sep, apart⟩ := Bool.or_eq_false_iff.1 apart
    rw [List.cons_append, callsFrom_sep identifier some_name sep, ih apart]

omit identifier some_name in
private theorem callsFrom_inside {word : List Char} (parts : word.all extendsIdentifier = true) (text : List Char) :
    callsFrom name true (word ++ text) = callsFrom name true text := by
  induction word with
  | nil => rfl
  | cons c word ih =>
    obtain ⟨part, parts⟩ := Bool.and_eq_true_iff.1 parts
    rw [List.cons_append, callsFrom, Bool.not_true, Bool.false_and, if_neg Bool.false_ne_true, part, ih parts]

omit some_name in
/-- A symbol that ends before `sep` begins with the name and a parenthesis only if it is the name. -/
theorem call_prefix_iff {word : List Char} (parts : word.all extendsIdentifier = true) {sep : Char}
    (apart : extendsIdentifier sep = false) (text : List Char) :
    name ++ ['('] <+: word ++ sep :: text ↔ name = word ∧ sep = '(' := by
  have whole {symbol : List Char} (parts : symbol.all extendsIdentifier = true) {c : Char}
      (ends : extendsIdentifier c = false) (rest : List Char) :
      (symbol ++ c :: rest).takeWhile extendsIdentifier = symbol := by
    rw [List.takeWhile_append_of_pos (List.all_eq_true.1 parts), List.takeWhile_cons_of_neg (by simp [ends]),
      List.append_nil]
  constructor
  · rintro ⟨rest, same⟩
    rw [List.append_assoc, List.singleton_append] at same
    have symbols := congrArg (List.takeWhile extendsIdentifier) same
    rw [whole identifier (by decide), whole parts apart] at symbols
    subst symbols
    exact ⟨rfl, (List.cons.inj (List.append_cancel_left same)).1.symm⟩
  · rintro ⟨rfl, rfl⟩
    exact ⟨text, by simp⟩

/-- A symbol is a call if it is the name and a parenthesis follows at once. -/
theorem callsFrom_symbol {word : List Char} (parts : word.all extendsIdentifier = true) (some_word : word ≠ [])
    {sep : Char} (apart : extendsIdentifier sep = false) (text : List Char) :
    callsFrom name false (word ++ sep :: text) =
      (if name = word ∧ sep = '(' then [argumentsOf text] else []) ++
        callsFrom name false text := by
  have prefix_iff := call_prefix_iff identifier parts apart text
  obtain ⟨c, rest, rfl⟩ := List.exists_cons_of_ne_nil some_word
  obtain ⟨part, restParts⟩ := Bool.and_eq_true_iff.1 parts
  have later : callsFrom name (extendsIdentifier c) (rest ++ sep :: text) = callsFrom name false text := by
    rw [part, callsFrom_inside restParts, callsFrom_sep identifier some_name apart]
  rw [List.cons_append] at prefix_iff ⊢
  by_cases call : name = c :: rest ∧ sep = '('
  · have found := List.isPrefixOf_iff_prefix.2 (prefix_iff.2 call)
    have behind : (c :: (rest ++ sep :: text)).drop (name.length + 1) = text := by
      rw [call.1, ← List.cons_append, List.drop_append]
      simp
    rw [callsFrom, found, Bool.not_false, Bool.true_and, if_pos rfl, if_pos call, later, behind]
    rfl
  · have other : (name ++ ['(']).isPrefixOf (c :: (rest ++ sep :: text)) = false := by
      rw [Bool.eq_false_iff, Ne, List.isPrefixOf_iff_prefix, prefix_iff]
      exact call
    rw [callsFrom, other, Bool.and_false, if_neg Bool.false_ne_true, if_neg call, later]
    rfl

private theorem callsFrom_call {gap : List Char} (apart : gap.any extendsIdentifier = false) (text : List Char) :
    callsFrom name false (name ++ ('(' :: gap ++ text)) =
      argumentsOf (gap ++ text) :: callsFrom name false text := by
  rw [List.cons_append, callsFrom_symbol identifier some_name identifier some_name (by decide), if_pos ⟨rfl, rfl⟩,
    callsFrom_gap identifier some_name apart]
  rfl

private theorem callsFrom_other {word gap : List Char} (parts : word.all extendsIdentifier = true)
    (some_word : word ≠ [])
    (differs : name ≠ word) (some_gap : gap ≠ []) (apart : gap.any extendsIdentifier = false) (text : List Char) :
    callsFrom name false (word ++ (gap ++ text)) = callsFrom name false text := by
  obtain ⟨sep, gap, rfl⟩ := List.exists_cons_of_ne_nil some_gap
  obtain ⟨hsep, apart⟩ := Bool.or_eq_false_iff.1 apart
  rw [List.cons_append, callsFrom_symbol identifier some_name parts some_word hsep, if_neg fun call => differs call.1,
    callsFrom_gap identifier some_name apart]
  rfl

end

private theorem takeWhile_inside {text : List Char} (inside : ')' ∉ text) (rest : List Char) :
    (text ++ rest).takeWhile (· != ')') = text ++ rest.takeWhile (· != ')') :=
  List.takeWhile_append_of_pos fun c mem => by simpa using fun same : c = ')' => inside (same ▸ mem)

private theorem argumentsOf_gap {gap : List Char} (apart : gap.any extendsIdentifier = false) (inside : ')' ∉ gap)
    (text : List Char) : argumentsOf (gap ++ text) = argumentsOf text := by
  rw [argumentsOf, takeWhile_inside inside, symbolsIn_gap apart, argumentsOf]

private theorem argumentsOf_cons {tag : String} (h : IdentifierText tag.toList) (role : Role) {gap : List Char}
    (some_gap : gap ≠ []) (apart : gap.any extendsIdentifier = false) (inside : ')' ∉ gap) (text : List Char) :
    argumentsOf ((roleSymbol tag role).toList ++ (gap ++ text)) = (roleSymbol tag role).toList :: argumentsOf text := by
  have symbol := identifierText_roleSymbol h role
  have within : ')' ∉ (roleSymbol tag role).toList := by
    intro mem
    exact absurd (List.all_eq_true.1 symbol.all_extends ')' mem) (by decide)
  rw [argumentsOf, takeWhile_inside within, takeWhile_inside inside,
    symbolsIn_cons symbol.all_extends symbol.ne_nil some_gap apart, argumentsOf]

private theorem argumentsOf_close (text : List Char) : argumentsOf (')' :: text) = [] := rfl

/-- The definition of a constructor, cut into symbols and what stands between them. -/
theorem toList_constructor (key value : String) :
    (sourceText .definitions [dictionaryConstructor key value]).toList =
      "dictionary".toList ++ ("* ".toList ++ ((constructorSymbol key value).toList ++ ("(".toList ++ ("void".toList ++
      (") \x7b\n    ".toList ++ ("return".toList ++ (" ".toList ++ ("dictionary_create".toList ++ ("(\n        ".toList ++
      ((roleSymbol key .hashFunction).toList ++ (", ".toList ++
      ((roleSymbol key .compare).toList ++ (",\n        ".toList ++
      ((roleSymbol key .copyConstructor).toList ++ (", ".toList ++
      ((roleSymbol key .destructor).toList ++ (",\n        ".toList ++
      ((roleSymbol value .copyConstructor).toList ++ (", ".toList ++
      ((roleSymbol value .destructor).toList ++ ("\n    ".toList ++
        (')' :: ";\n\x7d\n\n".toList)))))))))))))))))))))) := by
  simp only [sourceText, linesText, CFunction.lines, Body.lines, dictionaryConstructor, CFunction.signature,
    parameterList, List.flatMap_cons, List.flatMap_nil, List.append_nil, List.cons_append, List.nil_append,
    List.map_cons, List.map_nil, Line.text, Line.blank, indentation, List.replicate,
    String.toList_append, String.toList_join, List.append_assoc]
  rfl

private theorem roleSymbol_ne_dictionary_create (tag : String) (role : Role) :
    roleSymbol tag role ≠ "dictionary_create" := by
  intro same
  have ends := ending_suffix_roleSymbol tag role
  rw [same] at ends
  revert ends
  cases role <;> decide

section
variable {key value : String} (hkey : IdentifierText key.toList) (hvalue : IdentifierText value.toList)
include hkey hvalue

private theorem argumentsOf_constructor (rest : List Char) :
    argumentsOf ("\n        ".toList ++
      ((roleSymbol key .hashFunction).toList ++ (", ".toList ++
      ((roleSymbol key .compare).toList ++ (",\n        ".toList ++
      ((roleSymbol key .copyConstructor).toList ++ (", ".toList ++
      ((roleSymbol key .destructor).toList ++ (",\n        ".toList ++
      ((roleSymbol value .copyConstructor).toList ++ (", ".toList ++
      ((roleSymbol value .destructor).toList ++ ("\n    ".toList ++ (')' :: rest)))))))))))))) =
      [(roleSymbol key .hashFunction).toList, (roleSymbol key .compare).toList, (roleSymbol key .copyConstructor).toList,
        (roleSymbol key .destructor).toList, (roleSymbol value .copyConstructor).toList,
        (roleSymbol value .destructor).toList] := by
  rw [argumentsOf_gap (by decide) (by decide),
    argumentsOf_cons hkey _ (by decide) (by decide) (by decide),
    argumentsOf_cons hkey _ (by decide) (by decide) (by decide),
    argumentsOf_cons hkey _ (by decide) (by decide) (by decide),
    argumentsOf_cons hkey _ (by decide) (by decide) (by decide),
    argumentsOf_cons hvalue _ (by decide) (by decide) (by decide),
    argumentsOf_cons hvalue _ (by decide) (by decide) (by decide), argumentsOf_close]

/-- The text of a constructor calls the library function once, with six role functions. -/
theorem callsFrom_constructor :
    callsFrom "dictionary_create".toList false (sourceText .definitions [dictionaryConstructor key value]).toList =
      [[(roleSymbol key .hashFunction).toList, (roleSymbol key .compare).toList,
        (roleSymbol key .copyConstructor).toList, (roleSymbol key .destructor).toList,
        (roleSymbol value .copyConstructor).toList, (roleSymbol value .destructor).toList]] := by
  have library : "dictionary_create".toList.all extendsIdentifier = true := by decide
  have some_name : "dictionary_create".toList ≠ [] := by decide
  have own := identifierText_constructorSymbol hkey hvalue
  have differs : "dictionary_create".toList ≠ (constructorSymbol key value).toList := fun same =>
    constructorSymbol_ne_dictionary_create key value (String.toList_inj.1 same).symm
  have word {word : List Char} (parts : word.all extendsIdentifier = true) (some_word : word ≠ [])
      (differs : "dictionary_create".toList ≠ word) {gap : List Char} (some_gap : gap ≠ [])
      (apart : gap.any extendsIdentifier = false) (text : List Char) :
      callsFrom "dictionary_create".toList false (word ++ (gap ++ text)) =
        callsFrom "dictionary_create".toList false text :=
    callsFrom_other library some_name parts some_word differs some_gap apart text
  have role {tag : String} (h : IdentifierText tag.toList) (role : Role) {gap : List Char} (some_gap : gap ≠ [])
      (apart : gap.any extendsIdentifier = false) (text : List Char) :
      callsFrom "dictionary_create".toList false ((roleSymbol tag role).toList ++ (gap ++ text)) =
        callsFrom "dictionary_create".toList false text :=
    word (identifierText_roleSymbol h role).all_extends (identifierText_roleSymbol h role).ne_nil
      (fun same => roleSymbol_ne_dictionary_create tag role (String.toList_inj.1 same).symm) some_gap apart text
  have opening : "(\n        ".toList = '(' :: "\n        ".toList := rfl
  have close : callsFrom "dictionary_create".toList false (')' :: ";\n\x7d\n\n".toList) = [] := by decide
  rw [toList_constructor, word (by decide) (by decide) (by decide) (by decide) (by decide),
    word own.all_extends own.ne_nil differs (by decide) (by decide),
    word (by decide) (by decide) (by decide) (by decide) (by decide),
    word (by decide) (by decide) (by decide) (by decide) (by decide), opening,
    callsFrom_call library some_name (by decide), argumentsOf_constructor hkey hvalue,
    role hkey _ (by decide) (by decide), role hkey _ (by decide) (by decide), role hkey _ (by decide) (by decide),
    role hkey _ (by decide) (by decide), role hvalue _ (by decide) (by decide), role hvalue _ (by decide) (by decide),
    close]

private theorem constructs_dictionaryConstructor :
    Constructs key value (sourceText .definitions [dictionaryConstructor key value]) where
  signature := by
    have opening : ("dictionary* " ++ key ++ "_to_" ++ value ++ "_dictionary_create(void) \x7b\n").toList =
        ((dictionaryConstructor key value).signature ++ " \x7b").toList ++ ['\n'] := by
      simp [CFunction.signature, dictionaryConstructor, parameterList, constructorSymbol]
    have text : (sourceText .definitions [dictionaryConstructor key value]).toList = _ :=
      (toList_definitions _).trans (by rw [List.flatMap_singleton, definitionRows_eq, rowsText, List.flatMap_cons])
    rw [text, opening]
    exact List.prefix_append _ _
  wiring := by
    have named (tag : String) (role : Role) :
        String.ofList (roleSymbol tag role).toList = tag ++ ("_" ++ role.suffix) := by
      rw [String.ofList_toList, roleSymbol, suffixedSymbol, String.append_assoc]
    rw [callsIn, callsFrom_constructor hkey hvalue]
    simp only [List.map_cons, List.map_nil, named]
    rfl

end

/-- Row by row: the quotient of a place by the length of a row says in which row it is, the remainder where there. -/
theorem getElem?_flatMap_pairs {α β : Type} (items : List α) {others : List β} (some_other : 0 < others.length)
    (i : Nat) : (items.flatMap fun a => others.map fun b => (a, b))[i]? =
      (items[i / others.length]?).bind fun a => (others[i % others.length]?).map fun b => (a, b) := by
  induction items generalizing i with
  | nil => rfl
  | cons a items ih =>
    rw [List.flatMap_cons]
    by_cases first : i < others.length
    · rw [List.getElem?_append_left (by rwa [List.length_map]), Nat.div_eq_of_lt first, Nat.mod_eq_of_lt first,
        List.getElem?_map]
      rfl
    · have behind : others.length ≤ i := Nat.le_of_not_lt first
      have row : i / others.length = (i - others.length) / others.length + 1 := Nat.div_eq_sub_div some_other behind
      rw [List.getElem?_append_right (by rwa [List.length_map]), List.length_map, ih, row, List.getElem?_cons_succ,
        Nat.mod_eq_sub_mod behind]

private theorem getElem?_orderedPairs {α : Type} {items : List α} {i : Nat} (inside : i < items.length * items.length) :
    ∃ a b, items[i / items.length]? = some a ∧ items[i % items.length]? = some b ∧
      (orderedPairs items)[i]? = some (a, b) := by
  have some_item : 0 < items.length := Nat.pos_of_lt_mul_left inside
  have row := List.getElem?_eq_getElem (Nat.div_lt_of_lt_mul inside)
  have column := List.getElem?_eq_getElem (Nat.mod_lt i some_item)
  refine ⟨_, _, row, column, ?_⟩
  rw [orderedPairs, getElem?_flatMap_pairs items some_item, row, column]
  rfl

private theorem definitionsIn_dictionaryConstructors (t : TypeTable) :
    definitionsIn (sourceText .definitions (dictionaryConstructors t)) = (orderedPairs t.tags).map fun pair =>
      sourceText .definitions [dictionaryConstructor pair.1 pair.2] := by
  rw [definitionsIn_sourceText (unbroken_dictionaryConstructors t), dictionaryConstructors, List.map_map]
  exact List.map_congr_left fun pair _ => by rw [Function.comp_apply]

/-- With `n` tags there are `n * n` definitions, and the one at place `i` is the constructor for the key at place
`i / n` and the value at place `i % n`. -/
theorem constructors_row_major (t : TypeTable) :
    List.Forall₂
      (fun i definition => ∃ key value, t.tags[i / t.size]? = some key ∧ t.tags[i % t.size]? = some value ∧
        Constructs key value definition)
      (List.range (t.size * t.size)) (definitionsIn (sourceText .definitions (dictionaryConstructors t))) := by
  have size : t.size = t.tags.length := (List.length_map _).symm
  rw [definitionsIn_dictionaryConstructors, List.forall₂_iff_get]
  constructor
  · rw [List.length_range, List.length_map, length_orderedPairs, size]
  · intro i inRange inPairs
    rw [List.length_range, size] at inRange
    obtain ⟨key, value, hkey, hvalue, pair⟩ := getElem?_orderedPairs inRange
    obtain ⟨inside, found⟩ := List.getElem?_eq_some_iff.1 pair
    refine ⟨key, value, by simpa [size] using hkey, by simpa [size] using hvalue, ?_⟩
    rw [List.get_eq_getElem, List.getElem_map, found]
    exact constructs_dictionaryConstructor (t.identifierText_of_mem_tags (List.mem_of_getElem? hkey))
      (t.identifierText_of_mem_tags (List.mem_of_getElem? hvalue))

end CollectionGlue
