import CollectionGlue.SourceText
import CollectionGlue.Proofs.FirstFaults
import CollectionGlue.Proofs.SymbolEndings

/-! # The symbols that the generated functions define and use

No two functions of a table share a name, no constructor takes the name of a library function, and the
one comparator that a constructor's text names is generated exactly when its key is numeric.
-/
namespace CollectionGlue

/-- The symbols in a text: its longest runs of identifier characters. -/
def symbolsIn (text : List Char) : List (List Char) :=
  (text.splitOnP fun c => !extendsIdentifier c).filter fun word => !word.isEmpty

theorem symbolsIn_gap {gap : List Char} (apart : gap.any extendsIdentifier = false)
    (text : List Char) : symbolsIn (gap ++ text) = symbolsIn text := by
  induction gap with
  | nil => rfl
  | cons c gap ih =>
    obtain ⟨sep, apart⟩ := Bool.or_eq_false_iff.1 apart
    rw [← ih apart]
    simp [symbolsIn, List.splitOnP_cons_eq_if_modifyHead, sep]

theorem symbolsIn_cons {word gap : List Char} (parts : word.all extendsIdentifier = true)
    (some_part : word ≠ []) (some_gap : gap ≠ []) (apart : gap.any extendsIdentifier = false)
    (text : List Char) : symbolsIn (word ++ (gap ++ text)) = word :: symbolsIn text := by
  obtain ⟨sep, gap, rfl⟩ := List.exists_cons_of_ne_nil some_gap
  obtain ⟨hsep, apart⟩ := Bool.or_eq_false_iff.1 apart
  rw [← symbolsIn_gap apart text]
  unfold symbolsIn
  rw [List.cons_append, List.splitOnP_append_cons_of_forall_mem (by simpa using parts) sep (by simp [hsep])]
  simp [some_part]

/-- The text of a constructor's body, cut into symbols and what stands between them. -/
theorem toList_dictionaryLines (key value : String) :
    (linesText (Body.dictionary key value).lines).toList =
      "    ".toList ++ ("return".toList ++ (" ".toList ++ ("dictionary_create".toList ++ ("(\n        ".toList ++
      ((roleSymbol key .hashFunction).toList ++ (", ".toList ++
      ((roleSymbol key .compare).toList ++ (",\n        ".toList ++
      ((roleSymbol key .copyConstructor).toList ++ (", ".toList ++
      ((roleSymbol key .destructor).toList ++ (",\n        ".toList ++
      ((roleSymbol value .copyConstructor).toList ++ (", ".toList ++
      ((roleSymbol value .destructor).toList ++ ("\n    );\n".toList ++ [])))))))))))))))) := by
  simp only [linesText, Body.lines, List.map_cons, List.map_nil, Line.text, indentation, List.replicate,
    String.toList_append, String.toList_join, List.flatMap_cons, List.flatMap_nil, List.append_assoc]
  rfl

/-- The text of a constructor's body names the library function and six role functions, in order. -/
theorem symbolsIn_dictionary {key value : String} (hkey : IdentifierText key.toList)
    (hvalue : IdentifierText value.toList) :
    symbolsIn (linesText (Body.dictionary key value).lines).toList =
      ["return".toList, "dictionary_create".toList, (roleSymbol key .hashFunction).toList,
        (roleSymbol key .compare).toList, (roleSymbol key .copyConstructor).toList,
        (roleSymbol key .destructor).toList, (roleSymbol value .copyConstructor).toList,
        (roleSymbol value .destructor).toList] := by
  have word {tag : String} (h : IdentifierText tag.toList) (role : Role) {gap : List Char}
      (some_gap : gap ≠ []) (apart : gap.any extendsIdentifier = false) (text : List Char) :
      symbolsIn ((roleSymbol tag role).toList ++ (gap ++ text)) =
        (roleSymbol tag role).toList :: symbolsIn text :=
    symbolsIn_cons (identifierText_roleSymbol h role).all_extends
      (identifierText_roleSymbol h role).ne_nil some_gap apart text
  rw [toList_dictionaryLines, symbolsIn_gap (by decide),
    symbolsIn_cons (by decide) (by decide) (by decide) (by decide),
    symbolsIn_cons (by decide) (by decide) (by decide) (by decide),
    word hkey _ (by decide) (by decide), word hkey _ (by decide) (by decide),
    word hkey _ (by decide) (by decide), word hkey _ (by decide) (by decide),
    word hvalue _ (by decide) (by decide), word hvalue _ (by decide) (by decide)]
  rfl

def generatedFunctions (nullGuard : Bool) (t : TypeTable) : List CFunction :=
  comparators nullGuard t ++ dictionaryConstructors t

def TypeEntry.isNumeric (e : TypeEntry) : Bool := e.signedness != .nonNumeric

private theorem name_comparator? (nullGuard : Bool) (e : TypeEntry) :
    (comparator? nullGuard e).map (·.name) =
      if e.isNumeric then some (roleSymbol e.tag .compare) else none := by
  obtain ⟨tag, signedness, cType⟩ := e
  cases signedness <;> rfl

private theorem names_comparators (nullGuard : Bool) (t : TypeTable) :
    (comparators nullGuard t).map (·.name) =
      (t.entries.filter (·.isNumeric)).map fun e => roleSymbol e.tag .compare := by
  unfold comparators
  generalize t.entries = entries
  induction entries with
  | nil => rfl
  | cons e entries ih =>
    have name := name_comparator? nullGuard e
    cases numeric : e.isNumeric <;> cases made : comparator? nullGuard e <;> simp_all

private theorem mem_names_comparators {nullGuard : Bool} {t : TypeTable} {name : String} :
    name ∈ (comparators nullGuard t).map (·.name) ↔
      ∃ e ∈ t.entries, e.isNumeric = true ∧ name = roleSymbol e.tag .compare := by
  rw [names_comparators]
  simp only [List.mem_map, List.mem_filter, and_assoc, eq_comm]

theorem TypeTable.identifierText_tag (t : TypeTable) {e : TypeEntry} (mem : e ∈ t.entries) :
    IdentifierText e.tag.toList := by
  have valid := t.acceptable.valid e mem
  rw [TypeEntry.isValid, Bool.and_eq_true] at valid
  exact (isIdentifier_iff _).1 valid.1

theorem TypeTable.identifierText_of_mem_tags (t : TypeTable) {tag : String} (mem : tag ∈ t.tags) :
    IdentifierText tag.toList := by
  obtain ⟨e, he, rfl⟩ := List.mem_map.1 mem
  exact t.identifierText_tag he

theorem TypeTable.isTypeSpelling_spelling (t : TypeTable) {e : TypeEntry} (mem : e ∈ t.entries) :
    isTypeSpelling e.spelling.toList = true := by
  have valid := t.acceptable.valid e mem
  rw [TypeEntry.isValid, Bool.and_eq_true] at valid
  exact valid.2

theorem nodup_names_comparators (nullGuard : Bool) (t : TypeTable) :
    ((comparators nullGuard t).map (·.name)).Nodup := by
  have tags : (t.entries.map (·.tag)).Nodup := t.acceptable.distinct_tags
  have entries : (t.entries.filter (·.isNumeric)).Nodup := tags.of_map.filter _
  rw [names_comparators]
  refine entries.map_on fun a ha b hb same => ?_
  exact eq_of_tag_eq tags (List.mem_of_mem_filter ha) (List.mem_of_mem_filter hb)
    (roleSymbol_injective same).1

theorem mem_dictionaryConstructors {t : TypeTable} {f : CFunction} :
    f ∈ dictionaryConstructors t ↔
      ∃ key ∈ t.entries, ∃ value ∈ t.entries, dictionaryConstructor key.tag value.tag = f := by
  simp [dictionaryConstructors, orderedPairs, TypeTable.tags, tagsOf]

/-- The comparator of a tag is generated once if the tag is numeric and not at all otherwise. -/
theorem count_compare (nullGuard : Bool) (t : TypeTable) {e : TypeEntry} (mem : e ∈ t.entries) :
    ((comparators nullGuard t).map (·.name)).count (roleSymbol e.tag .compare) =
      if e.isNumeric then 1 else 0 := by
  cases numeric : e.isNumeric with
  | true =>
    apply List.count_eq_one_of_mem (nodup_names_comparators nullGuard t)
    exact mem_names_comparators.2 ⟨e, mem, numeric, rfl⟩
  | false =>
    apply List.count_eq_zero_of_not_mem
    intro found
    obtain ⟨a, ha, numeric', same⟩ := mem_names_comparators.1 found
    have entry : e = a := eq_of_tag_eq t.acceptable.distinct_tags mem ha (roleSymbol_injective same).1
    rw [entry, numeric'] at numeric
    cases numeric

/-- The symbols in the text of a function's body that end as a comparator's name does. -/
def comparatorReferences (f : CFunction) : List (List Char) :=
  (symbolsIn (linesText f.body.lines).toList).filter fun symbol => Role.compare.ending.isSuffixOf symbol

private theorem comparatorReferences_dictionaryConstructor {key value : String}
    (hkey : IdentifierText key.toList) (hvalue : IdentifierText value.toList) :
    comparatorReferences (dictionaryConstructor key value) = [(roleSymbol key .compare).toList] := by
  have ends (tag : String) (role : Role) :
      Role.compare.ending.isSuffixOf (roleSymbol tag role).toList = decide (.compare = role) := by
    rw [Bool.eq_iff_iff, List.isSuffixOf_iff_suffix, ending_suffix_roleSymbol_iff, decide_eq_true_eq]
  have keyword : Role.compare.ending.isSuffixOf "return".toList = false := by decide
  have library : Role.compare.ending.isSuffixOf "dictionary_create".toList = false := by decide
  unfold comparatorReferences dictionaryConstructor
  rw [symbolsIn_dictionary hkey hvalue]
  simp only [List.filter_cons, List.filter_nil, ends, keyword, library]
  rfl

/-- What holds of the symbols of a table's functions: each names one function and is an identifier,
constructors keep clear of the library's names, and the comparator that a constructor refers to is
generated once, or not at all for a key without numeric values. -/
structure CleanSymbols (nullGuard : Bool) (t : TypeTable) : Prop where
  distinct : ((generatedFunctions nullGuard t).map (·.name)).Nodup
  identifiers : ∀ f ∈ generatedFunctions nullGuard t, IdentifierText f.name.toList
  library_free : ∀ f ∈ dictionaryConstructors t, f.name ≠ "dictionary_create"
  role_free : ∀ f ∈ dictionaryConstructors t, ∀ tag role, f.name ≠ roleSymbol tag role
  role_injective : ∀ tag role tag' role',
    roleSymbol tag role = roleSymbol tag' role' → tag = tag' ∧ role = role'
  linked : ∀ f ∈ dictionaryConstructors t, ∃ key ∈ t.entries, ∃ value ∈ t.entries,
    f = dictionaryConstructor key.tag value.tag ∧
      comparatorReferences f = [(roleSymbol key.tag .compare).toList] ∧
      ((comparators nullGuard t).map (·.name)).count (roleSymbol key.tag .compare) =
        if key.signedness = .nonNumeric then 0 else 1

private theorem distinct_names (nullGuard : Bool) (t : TypeTable) :
    ((generatedFunctions nullGuard t).map (·.name)).Nodup := by
  have constructors : ((dictionaryConstructors t).map (·.name)).Nodup := by
    rw [map_name_dictionaryConstructors]
    exact t.acceptable.distinct_constructors
  rw [generatedFunctions, List.map_append, List.nodup_append]
  refine ⟨nodup_names_comparators nullGuard t, constructors, ?_⟩
  intro a ha b hb same
  obtain ⟨e, -, -, rfl⟩ := mem_names_comparators.1 ha
  obtain ⟨f, hf, rfl⟩ := List.mem_map.1 hb
  obtain ⟨key, -, value, -, rfl⟩ := mem_dictionaryConstructors.1 hf
  exact constructorSymbol_ne_roleSymbol key.tag value.tag e.tag .compare same.symm

private theorem identifierText_name {nullGuard : Bool} {t : TypeTable} {f : CFunction}
    (mem : f ∈ generatedFunctions nullGuard t) : IdentifierText f.name.toList := by
  rcases List.mem_append.1 mem with mem | mem
  · obtain ⟨e, he, -, name⟩ := mem_names_comparators.1 (List.mem_map_of_mem mem)
    rw [name]
    exact identifierText_roleSymbol (t.identifierText_tag he) .compare
  · obtain ⟨key, hkey, value, hvalue, rfl⟩ := mem_dictionaryConstructors.1 mem
    exact identifierText_constructorSymbol (t.identifierText_tag hkey) (t.identifierText_tag hvalue)

theorem cleanSymbols (nullGuard : Bool) (t : TypeTable) : CleanSymbols nullGuard t where
  distinct := distinct_names nullGuard t
  identifiers := fun _ => identifierText_name
  library_free := by
    intro f mem
    obtain ⟨key, -, value, -, rfl⟩ := mem_dictionaryConstructors.1 mem
    exact constructorSymbol_ne_dictionary_create key.tag value.tag
  role_free := by
    intro f mem tag role
    obtain ⟨key, -, value, -, rfl⟩ := mem_dictionaryConstructors.1 mem
    exact constructorSymbol_ne_roleSymbol key.tag value.tag tag role
  role_injective := fun _ _ _ _ => roleSymbol_injective
  linked := by
    intro f mem
    obtain ⟨key, hkey, value, hvalue, rfl⟩ := mem_dictionaryConstructors.1 mem
    refine ⟨key, hkey, value, hvalue, rfl, ?_, ?_⟩
    · exact comparatorReferences_dictionaryConstructor (t.identifierText_tag hkey)
        (t.identifierText_tag hvalue)
    · rw [count_compare nullGuard t hkey]
      cases h : key.signedness <;> simp [TypeEntry.isNumeric, h]

end CollectionGlue
