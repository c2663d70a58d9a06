import CollectionGlue.IdentifierSpellings

/-! # Which brackets are open behind a text

A text is read one character at a time. A bracket closes the latest open one or the text is not nested at
all; so texts that keep the brackets of others outside untouched can be put together.
-/
namespace CollectionGlue

/-- A brace, the parenthesis of a call, which follows a name at once, or any other parenthesis. -/
inductive OpenBracket | brace | call | group
  deriving DecidableEq, Repr

def OpenBracket.closing : OpenBracket → Char
  | .brace => '\x7d'
  | .call | .group => ')'

/-- What is known behind a text: its open brackets, the latest first, and its last character. -/
structure BracketState where
  opened : List OpenBracket
  previous : Char

/-- The brackets left open by a closing bracket, which has to belong to the latest open one. -/
def closeLatest (c : Char) : List OpenBracket → Option (List OpenBracket)
  | [] => none
  | latest :: outer => if latest.closing = c then some outer else none

def BracketState.step (s : BracketState) (c : Char) : Option BracketState :=
  if c = '\x7b' then some ⟨.brace :: s.opened, c⟩
  else if c = '(' then some ⟨(if extendsIdentifier s.previous then .call else .group) :: s.opened, c⟩
  else if c = '\x7d' ∨ c = ')' then (closeLatest c s.opened).map (⟨·, c⟩)
  else some ⟨s.opened, c⟩

/-- The brackets open behind a text, none if one of its brackets closes another than the latest open one. -/
def openAfter (text : List Char) : Option (List OpenBracket) :=
  (text.foldlM BracketState.step ⟨[], '\n'⟩).map (·.opened)

/-- Whatever stands before the text, it turns the brackets `opened` into the brackets `next`. -/
def Nests (opened : List OpenBracket) (text : List Char) (next : List OpenBracket) : Prop :=
  ∀ previous, ∃ last, text.foldlM BracketState.step ⟨opened, previous⟩ = some ⟨next, last⟩

theorem Nests.openAfter_eq {text : List Char} {next : List OpenBracket} (h : Nests [] text next) :
    openAfter text = some next := by
  obtain ⟨last, read⟩ := h '\n'
  rw [openAfter, read]
  rfl

theorem Nests.nil (opened : List OpenBracket) : Nests opened [] opened := fun previous => ⟨previous, rfl⟩

theorem Nests.append {opened next final : List OpenBracket} {text more : List Char} (h : Nests opened text next)
    (h' : Nests next more final) : Nests opened (text ++ more) final := by
  intro previous
  obtain ⟨middle, read⟩ := h previous
  obtain ⟨last, read'⟩ := h' middle
  refine ⟨last, ?_⟩
  rw [List.foldlM_append, read]
  exact read'

private theorem step_of_word {c : Char} (word : extendsIdentifier c = true ∨ c = ' ') (s : BracketState) :
    s.step c = some ⟨s.opened, c⟩ := by
  have apart {bracket : Char} (closed : extendsIdentifier bracket = false) (visible : bracket ≠ ' ') :
      c ≠ bracket := by
    rintro rfl
    rcases word with part | space
    · rw [closed] at part
      cases part
    · exact visible space
  have brace : c ≠ '\x7b' := apart (by decide) (by decide)
  have parenthesis : c ≠ '(' := apart (by decide) (by decide)
  have close : ¬(c = '\x7d' ∨ c = ')') := not_or.2 ⟨apart (by decide) (by decide), apart (by decide) (by decide)⟩
  rw [BracketState.step, if_neg brace, if_neg parenthesis, if_neg close]

/-- Words and the spaces between them leave all brackets as they are. -/
theorem Nests.words {text : List Char} (words : ∀ c ∈ text, extendsIdentifier c = true ∨ c = ' ')
    (opened : List OpenBracket) : Nests opened text opened := by
  induction text with
  | nil => exact .nil opened
  | cons c text ih =>
    rw [List.forall_mem_cons] at words
    have first : Nests opened [c] opened := fun previous => ⟨c, by simp [step_of_word words.1]⟩
    exact first.append (ih words.2)

end CollectionGlue
