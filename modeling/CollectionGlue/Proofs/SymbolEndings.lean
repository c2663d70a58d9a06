import CollectionGlue.GeneratedFunctions
import CollectionGlue.Proofs.SpellingLanguages
import Mathlib.Data.List.Infix

/-! # Symbols told apart by the way they end

Tags are free to contain the joints of other symbols, so only the end of a symbol says which family it
belongs to: of two endings of one text the shorter ends the longer, and no ending here ends another.
-/
namespace CollectionGlue

def Role.ending (r : Role) : List Char := '_' :: r.suffix.toList

def constructorEnding : List Char := "_dictionary_create".toList

theorem toList_roleSymbol (tag : String) (role : Role) :
    (roleSymbol tag role).toList = tag.toList ++ role.ending := by
  simp [roleSymbol, suffixedSymbol, Role.ending]

theorem toList_constructorSymbol (key value : String) :
    (constructorSymbol key value).toList =
      key.toList ++ (['_', 't', 'o', '_'] ++ (value.toList ++ constructorEnding)) := by
  simp only [constructorSymbol, String.toList_append, List.append_assoc]
  rfl

theorem ending_suffix_roleSymbol (tag : String) (role : Role) :
    role.ending <:+ (roleSymbol tag role).toList := by
  rw [toList_roleSymbol]
  exact List.suffix_append _ _

theorem constructorEnding_suffix (key value : String) :
    constructorEnding <:+ (constructorSymbol key value).toList := by
  rw [toList_constructorSymbol, ← List.append_assoc, ← List.append_assoc]
  exact List.suffix_append _ _

private theorem Role.eq_of_ending_suffix {r r' : Role} (h : r.ending <:+ r'.ending) : r = r' := by
  revert h
  cases r <;> cases r' <;> decide

private theorem Role.not_ending_suffix_constructorEnding (r : Role) :
    ¬r.ending <:+ constructorEnding ∧ ¬constructorEnding <:+ r.ending := by
  cases r <;> decide

theorem ending_suffix_roleSymbol_iff {r role : Role} {tag : String} :
    r.ending <:+ (roleSymbol tag role).toList ↔ r = role := by
  constructor
  · intro ends
    rcases List.suffix_or_suffix_of_suffix ends (ending_suffix_roleSymbol tag role) with h | h
    · exact Role.eq_of_ending_suffix h
    · exact (Role.eq_of_ending_suffix h).symm
  · rintro rfl
    exact ending_suffix_roleSymbol tag r

/-- A role symbol tells its tag and its role, whatever the tag looks like. -/
theorem roleSymbol_injective {tag tag' : String} {role role' : Role}
    (same : roleSymbol tag role = roleSymbol tag' role') : tag = tag' ∧ role = role' := by
  have ends := ending_suffix_roleSymbol tag role
  rw [same] at ends
  obtain rfl := ending_suffix_roleSymbol_iff.1 ends
  have texts := congrArg String.toList same
  rw [toList_roleSymbol, toList_roleSymbol] at texts
  exact ⟨String.toList_inj.1 (List.append_cancel_right texts), rfl⟩

theorem not_constructorEnding_suffix_roleSymbol (tag : String) (role : Role) :
    ¬constructorEnding <:+ (roleSymbol tag role).toList := by
  intro ends
  obtain ⟨shorter, longer⟩ := role.not_ending_suffix_constructorEnding
  rcases List.suffix_or_suffix_of_suffix ends (ending_suffix_roleSymbol tag role) with h | h
  · exact longer h
  · exact shorter h

theorem constructorSymbol_ne_roleSymbol (key value tag : String) (role : Role) :
    constructorSymbol key value ≠ roleSymbol tag role := by
  intro same
  have ends := constructorEnding_suffix key value
  rw [same] at ends
  exact not_constructorEnding_suffix_roleSymbol tag role ends

/-- A constructor's symbol is longer than that of the function it calls. -/
theorem constructorSymbol_ne_dictionary_create (key value : String) :
    constructorSymbol key value ≠ "dictionary_create" := by
  intro same
  have lengths := congrArg (fun s => s.toList.length) same
  have ending : constructorEnding.length = 18 := rfl
  have called : "dictionary_create".toList.length = 17 := rfl
  simp only [toList_constructorSymbol, List.length_append, ending, called] at lengths
  omega

theorem IdentifierText.append {text more : List Char} (h : IdentifierText text)
    (parts : more.all extendsIdentifier = true) : IdentifierText (text ++ more) := by
  obtain ⟨first, rest, rfl, start, rest_parts⟩ := h
  refine ⟨first, rest ++ more, rfl, start, fun c mem => ?_⟩
  rcases List.mem_append.1 mem with mem | mem
  · exact rest_parts c mem
  · exact (extendsIdentifier_iff c).1 (List.all_eq_true.1 parts c mem)

theorem IdentifierText.all_extends {text : List Char} (h : IdentifierText text) :
    text.all extendsIdentifier = true :=
  List.all_eq_true.2 fun c mem => (extendsIdentifier_iff c).2 (h.all_part c mem)

theorem IdentifierText.ne_nil {text : List Char} (h : IdentifierText text) : text ≠ [] := by
  obtain ⟨first, rest, rfl, -⟩ := h
  exact List.cons_ne_nil first rest

theorem identifierText_roleSymbol {tag : String} (h : IdentifierText tag.toList) (role : Role) :
    IdentifierText (roleSymbol tag role).toList := by
  rw [toList_roleSymbol]
  apply h.append
  cases role <;> decide

theorem identifierText_constructorSymbol {key value : String} (hkey : IdentifierText key.toList)
    (hvalue : IdentifierText value.toList) : IdentifierText (constructorSymbol key value).toList := by
  have joint : ['_', 't', 'o', '_'].all extendsIdentifier = true := by decide
  have ending : constructorEnding.all extendsIdentifier = true := by decide
  rw [toList_constructorSymbol]
  apply hkey.append
  rw [List.all_append, List.all_append, joint, hvalue.all_extends, ending]
  rfl

end CollectionGlue
