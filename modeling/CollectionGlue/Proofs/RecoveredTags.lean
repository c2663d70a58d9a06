import CollectionGlue.Proofs.SymbolHygiene
import CollectionGlue.Proofs.TextRows

/-! # The text of the dictionary constructors tells the tags

The name of a constructor cannot be split at its joint, since tags may contain the joint. But the names
are found in the text by their ending, the first one says the first tag twice, and with that tag known the
names of the first row say all the others.
-/
namespace CollectionGlue

private theorem symbolsIn_append_cons {sep : Char} (apart : extendsIdentifier sep = false) (text rest : List Char) :
    symbolsIn (text ++ sep :: rest) = symbolsIn text ++ symbolsIn rest := by
  unfold symbolsIn
  rw [List.splitOnP_append_cons _ _ (by rw [apart]; rfl), List.filter_append]

private theorem symbolsIn_line_append (l : Line) (rest : List Char) :
    symbolsIn (l.text.toList ++ rest) = symbolsIn l.content.toList ++ symbolsIn rest := by
  have indented : (indentation l.depth).toList.any extendsIdentifier = false := by
    rw [toList_indentation, List.any_replicate]
    split <;> rfl
  have whole : l.text.toList ++ rest =
      (indentation l.depth).toList ++ (l.content.toList ++ '\n' :: rest) := by
    simp [Line.text]
  rw [whole, symbolsIn_gap indented, symbolsIn_append_cons (by decide)]

private theorem symbolsIn_linesText (lines : List Line) :
    symbolsIn (linesText lines).toList = lines.flatMap fun l => symbolsIn l.content.toList := by
  have texts (lines : List Line) : (linesText lines).toList = lines.flatMap fun l => l.text.toList := by
    rw [linesText, String.toList_join, List.flatMap_map]
  rw [texts]
  induction lines with
  | nil => rfl
  | cons l lines ih => rw [List.flatMap_cons, List.flatMap_cons, symbolsIn_line_append, ih]

/-- The symbols in a text that end as a constructor's name does. -/
def constructorNamesIn (text : List Char) : List (List Char) :=
  (symbolsIn text).filter fun symbol => constructorEnding.isSuffixOf symbol

private theorem symbolsIn_signature {key value : String} (hkey : IdentifierText key.toList)
    (hvalue : IdentifierText value.toList) {ending : List Char} (apart : ending.any extendsIdentifier = false) :
    symbolsIn ((dictionaryConstructor key value).signature.toList ++ ending) =
      ["dictionary".toList, (constructorSymbol key value).toList, "void".toList] := by
  have name := identifierText_constructorSymbol hkey hvalue
  have signature : (dictionaryConstructor key value).signature.toList ++ ending =
      "dictionary".toList ++ ("* ".toList ++ ((constructorSymbol key value).toList ++
        ("(".toList ++ ("void".toList ++ (")".toList ++ ending))))) := by
    simp [CFunction.signature, dictionaryConstructor, parameterList]
  have last := symbolsIn_gap apart []
  rw [List.append_nil] at last
  rw [signature, symbolsIn_cons (by decide) (by decide) (by decide) (by decide),
    symbolsIn_cons name.all_extends name.ne_nil (by decide) (by decide),
    symbolsIn_cons (by decide) (by decide) (by decide) (by decide), last]
  rfl

private theorem names_of_signature (name : String) (ends : constructorEnding <:+ name.toList) :
    ["dictionary".toList, name.toList, "void".toList].filter
      (fun symbol => constructorEnding.isSuffixOf symbol) = [name.toList] := by
  have first : constructorEnding.isSuffixOf "dictionary".toList = false := by decide
  have last : constructorEnding.isSuffixOf "void".toList = false := by decide
  have own : constructorEnding.isSuffixOf name.toList = true := List.isSuffixOf_iff_suffix.2 ends
  simp only [List.filter_cons, List.filter_nil, first, last, own]
  rfl

private theorem names_of_body {key value : String} (hkey : IdentifierText key.toList)
    (hvalue : IdentifierText value.toList) :
    constructorNamesIn (linesText (Body.dictionary key value).lines).toList = [] := by
  have role (tag : String) (role : Role) :
      constructorEnding.isSuffixOf (roleSymbol tag role).toList = false := by
    rw [Bool.eq_false_iff, Ne, List.isSuffixOf_iff_suffix]
    exact not_constructorEnding_suffix_roleSymbol tag role
  have keyword : constructorEnding.isSuffixOf "return".toList = false := by decide
  have library : constructorEnding.isSuffixOf "dictionary_create".toList = false := by decide
  unfold constructorNamesIn
  rw [symbolsIn_dictionary hkey hvalue]
  simp only [List.filter_cons, List.filter_nil, role, keyword, library]
  rfl

/-- In either form the text of a constructor holds one constructor's name. -/
theorem constructorNamesIn_constructor {key value : String} (hkey : IdentifierText key.toList)
    (hvalue : IdentifierText value.toList) (form : SourceForm) :
    constructorNamesIn (linesText ((dictionaryConstructor key value).lines form)).toList =
      [(constructorSymbol key value).toList] := by
  have own := names_of_signature _ (constructorEnding_suffix key value)
  unfold constructorNamesIn
  cases form with
  | prototypes =>
    have header := symbolsIn_signature hkey hvalue (show ";".toList.any extendsIdentifier = false by decide)
    rw [symbolsIn_linesText, CFunction.lines, List.flatMap_singleton, String.toList_append, header, own]
  | definitions =>
    have header := symbolsIn_signature hkey hvalue (show " \x7b".toList.any extendsIdentifier = false by decide)
    have body := names_of_body hkey hvalue
    rw [constructorNamesIn] at body
    have close : [⟨0, "\x7d"⟩, Line.blank].flatMap (fun l => symbolsIn l.content.toList) = [] := by decide
    have symbols : symbolsIn (linesText ((dictionaryConstructor key value).lines .definitions)).toList =
        ["dictionary".toList, (constructorSymbol key value).toList, "void".toList] ++
          symbolsIn (linesText (Body.dictionary key value).lines).toList := by
      rw [symbolsIn_linesText, CFunction.lines, List.cons_append, List.flatMap_cons, List.flatMap_append,
        ← symbolsIn_linesText, close, List.append_nil, String.toList_append, header]
      rfl
    rw [symbols, List.filter_append, own, body, List.append_nil]

private theorem constructorNamesIn_linesText_append (lines lines' : List Line) :
    constructorNamesIn (linesText (lines ++ lines')).toList =
      constructorNamesIn (linesText lines).toList ++ constructorNamesIn (linesText lines').toList := by
  unfold constructorNamesIn
  rw [symbolsIn_linesText, symbolsIn_linesText, symbolsIn_linesText, List.flatMap_append, List.filter_append]

private theorem constructorNamesIn_sourceText (t : TypeTable) (form : SourceForm) :
    constructorNamesIn (sourceText form (dictionaryConstructors t)).toList =
      (constructorSymbols t.tags).map String.toList := by
  have one : ∀ pair ∈ orderedPairs t.tags,
      constructorNamesIn (linesText ((dictionaryConstructor pair.1 pair.2).lines form)).toList =
        [(constructorSymbol pair.1 pair.2).toList] := by
    rintro ⟨key, value⟩ mem
    obtain ⟨hkey, hvalue⟩ := mem_orderedPairs.1 mem
    exact constructorNamesIn_constructor (t.identifierText_of_mem_tags hkey)
      (t.identifierText_of_mem_tags hvalue) form
  unfold constructorSymbols dictionaryConstructors
  generalize orderedPairs t.tags = pairs at one
  induction pairs with
  | nil => rfl
  | cons pair pairs ih =>
    rw [List.map_cons, List.map_cons, List.map_cons, sourceText, List.flatMap_cons,
      constructorNamesIn_linesText_append, one pair List.mem_cons_self, List.singleton_append]
    exact congrArg (_ :: ·) (ih fun later mem => one later (List.mem_cons_of_mem pair mem))

theorem length_orderedPairs {α : Type} (items : List α) :
    (orderedPairs items).length = items.length * items.length := by
  simp [orderedPairs, List.length_flatMap]

private theorem constructorSymbol_value_injective {key value value' : String}
    (same : constructorSymbol key value = constructorSymbol key value') : value = value' := by
  have texts := congrArg String.toList same
  rw [toList_constructorSymbol, toList_constructorSymbol, List.append_cancel_left_eq,
    List.append_cancel_left_eq, List.append_cancel_right_eq] at texts
  exact String.toList_inj.1 texts

/-- A tag that stands on both sides is told by the length of the name. -/
theorem constructorSymbol_self_injective {tag tag' : String}
    (same : constructorSymbol tag tag = constructorSymbol tag' tag') : tag = tag' := by
  have texts := congrArg String.toList same
  rw [toList_constructorSymbol, toList_constructorSymbol] at texts
  have lengths := congrArg List.length texts
  simp only [List.length_append, List.length_cons, List.length_nil] at lengths
  exact String.toList_inj.1 (List.append_inj_left texts (by omega))

/-- The names of all pairs tell the tags: the first name gives the first tag, and then the names of the
first row give the others. -/
theorem constructorSymbols_injective {tags tags' : List String}
    (same : constructorSymbols tags = constructorSymbols tags') : tags = tags' := by
  have lengths := congrArg List.length same
  simp only [constructorSymbols, List.length_map, length_orderedPairs] at lengths
  have size : tags.length = tags'.length := Nat.mul_self_inj.1 lengths
  cases tags with
  | nil => exact (List.length_eq_zero_iff.1 size.symm).symm
  | cons tag rest =>
    cases tags' with
    | nil => cases size
    | cons tag' rest' =>
      simp only [constructorSymbols, orderedPairs, List.flatMap_cons, List.map_append, List.map_map] at same
      have row := List.append_inj_left same (by simpa using size)
      have first := (List.cons.inj row).1
      obtain rfl : tag = tag' := constructorSymbol_self_injective first
      exact List.map_injective_iff.2 (fun _ _ => constructorSymbol_value_injective) row

/-- Two tables have the same text of constructors, in either form, exactly if they have the same tags in the
same order. -/
theorem sourceText_dictionaryConstructors_eq_iff (t t' : TypeTable) (form : SourceForm) :
    sourceText form (dictionaryConstructors t) = sourceText form (dictionaryConstructors t') ↔
      t.tags = t'.tags := by
  constructor
  · intro same
    apply constructorSymbols_injective
    have names := congrArg (fun text => constructorNamesIn text.toList) same
    rw [constructorNamesIn_sourceText, constructorNamesIn_sourceText] at names
    exact List.map_injective_iff.2 (fun _ _ => String.toList_inj.1) names
  · intro same
    rw [dictionaryConstructors, dictionaryConstructors, same]

end CollectionGlue
