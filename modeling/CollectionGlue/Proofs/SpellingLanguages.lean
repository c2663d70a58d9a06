import CollectionGlue.TypeEntries

/-! # The two languages of a type table described without a scanner

An identifier is described by its characters and a type spelling by its words. The scanner of words
agrees with cutting the text at every space.
-/
namespace CollectionGlue

def IdentifierStart (c : Char) : Prop := ('A' ≤ c ∧ c ≤ 'Z') ∨ ('a' ≤ c ∧ c ≤ 'z') ∨ c = '_'

def IdentifierPart (c : Char) : Prop := IdentifierStart c ∨ ('0' ≤ c ∧ c ≤ '9')

/-- A letter or underscore, and then letters, digits and underscores. -/
def IdentifierText (text : List Char) : Prop :=
  ∃ first rest, text = first :: rest ∧ IdentifierStart first ∧ ∀ c ∈ rest, IdentifierPart c

/-- One identifier or more, joined by single spaces. -/
def TypeSpelling (text : List Char) : Prop :=
  ∃ words, words ≠ [] ∧ (∀ word ∈ words, IdentifierText word) ∧ text = [' '].intercalate words

theorem opensIdentifier_iff (c : Char) : opensIdentifier c = true ↔ IdentifierStart c := by
  have letter : c.isAlpha =
      (decide ('A' ≤ c ∧ c ≤ 'Z') || (decide ('a' ≤ c) && decide (c ≤ 'z'))) := rfl
  simp only [opensIdentifier, IdentifierStart, letter, Bool.or_eq_true, Bool.and_eq_true,
    decide_eq_true_eq, beq_iff_eq, or_assoc]

theorem extendsIdentifier_iff (c : Char) : extendsIdentifier c = true ↔ IdentifierPart c := by
  have digit : c.isDigit = true ↔ '0' ≤ c ∧ c ≤ '9' := by
    simp only [Char.isDigit, Bool.and_eq_true, decide_eq_true_eq]
    rfl
  rw [IdentifierPart, ← opensIdentifier_iff, ← digit]
  simp only [extendsIdentifier, opensIdentifier, Char.isAlphanum, Bool.or_eq_true]
  exact or_right_comm

theorem isIdentifier_iff (text : List Char) : isIdentifier text = true ↔ IdentifierText text := by
  cases text with
  | nil => simp [isIdentifier, IdentifierText]
  | cons c cs =>
    simp only [isIdentifier, Bool.and_eq_true, List.all_eq_true, opensIdentifier_iff,
      extendsIdentifier_iff]
    constructor
    · rintro ⟨start, parts⟩
      exact ⟨c, cs, rfl, start, parts⟩
    · rintro ⟨first, rest, same, start, parts⟩
      cases same
      exact ⟨start, parts⟩

theorem IdentifierText.all_part {text : List Char} (h : IdentifierText text) :
    ∀ c ∈ text, IdentifierPart c := by
  obtain ⟨first, rest, rfl, start, parts⟩ := h
  exact List.forall_mem_cons.2 ⟨.inl start, parts⟩

theorem IdentifierText.space_not_mem {text : List Char} (h : IdentifierText text) : ' ' ∉ text := by
  intro mem
  have part := (extendsIdentifier_iff ' ').2 (h.all_part ' ' mem)
  exact absurd part (by decide)

/-- What the scanner wants of the word it is in: the rest of a word that has begun, or a whole one. -/
def isWordRest (inWord : Bool) (text : List Char) : Bool :=
  if inWord then text.all extendsIdentifier else isIdentifier text

private theorem isWordRest_cons (inWord : Bool) (c : Char) (text : List Char) :
    isWordRest inWord (c :: text) =
      ((if inWord then extendsIdentifier c else opensIdentifier c) && isWordRest true text) := by
  cases inWord <;> rfl

/-- Cut at every space, a text that the scanner accepts begins with the rest of a word and goes on with
whole words. -/
theorem scansWords_iff (inWord : Bool) {text word : List Char} {words : List (List Char)}
    (cut : text.splitOn ' ' = word :: words) :
    scansWords inWord text = true ↔
      isWordRest inWord word = true ∧ ∀ w ∈ words, isIdentifier w = true := by
  induction text generalizing inWord word words with
  | nil =>
    obtain ⟨rfl, rfl⟩ : [] = word ∧ [] = words := by simpa using cut
    cases inWord <;> simp [scansWords, isWordRest, isIdentifier]
  | cons c text ih =>
    obtain ⟨word', words', cut'⟩ := List.exists_cons_of_ne_nil (List.splitOn_ne_nil ' ' text)
    by_cases space : c = ' '
    · obtain ⟨rfl, rfl⟩ : [] = word ∧ word' :: words' = words := by
        simpa [List.splitOn_cons_eq_if_modifyHead, space, cut'] using cut
      have opens : opensIdentifier ' ' = false := by decide
      subst space
      cases inWord with
      | false => simp [scansWords, opens, isWordRest, isIdentifier]
      | true => simp [scansWords, ih false cut', isWordRest]
    · obtain ⟨rfl, rfl⟩ : c :: word' = word ∧ words' = words := by
        simpa [List.splitOn_cons_eq_if_modifyHead, space, cut'] using cut
      cases inWord <;> simp [scansWords, space, ih true cut', isWordRest_cons, and_assoc]

theorem isTypeSpelling_iff_splitOn (text : List Char) :
    isTypeSpelling text = true ↔ ∀ word ∈ text.splitOn ' ', IdentifierText word := by
  obtain ⟨word, words, cut⟩ := List.exists_cons_of_ne_nil (List.splitOn_ne_nil ' ' text)
  simp [isTypeSpelling, scansWords_iff false cut, cut, isWordRest, ← isIdentifier_iff]

theorem isTypeSpelling_iff (text : List Char) : isTypeSpelling text = true ↔ TypeSpelling text := by
  rw [isTypeSpelling_iff_splitOn]
  constructor
  · intro identifiers
    exact ⟨text.splitOn ' ', List.splitOn_ne_nil ' ' text, identifiers,
      (List.intercalate_splitOn ' ').symm⟩
  · rintro ⟨words, some_word, identifiers, rfl⟩
    rw [List.splitOn_intercalate ' ' (fun w mem => (identifiers w mem).space_not_mem) some_word]
    exact identifiers

end CollectionGlue
