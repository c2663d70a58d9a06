import CollectionGlue.Proofs.SourceLayout

/-! # A text of definitions cut into its definitions

A definition ends with a brace alone at the margin and a blank row. No other row of it is such a brace, since the
signature ends in a brace of the other kind and the rows of a body are indented or blank. So cutting a text
behind each such pair of rows gives the texts of the single functions.
-/
namespace CollectionGlue

/-- A list cut behind each place where `ending` has been read; `current` is what was read since the last cut. -/
def cutBehind {α : Type} [BEq α] (ending current : List α) : List α → List (List α)
  | [] => if current.isEmpty then [] else [current]
  | a :: rest =>
    if ending.isSuffixOf (current ++ [a]) then (current ++ [a]) :: cutBehind ending [] rest
    else cutBehind ending (current ++ [a]) rest

/-- The pieces of a text when it is cut behind each closing brace at the margin and its blank row. -/
def definitionsIn (source : String) : List String :=
  (cutBehind [['\x7d'], []] [] (rowsOf source)).map fun rows => String.ofList (rowsText rows)

section
variable {α : Type} [BEq α] [LawfulBEq α] {ending current : List α} {a : α}

private theorem cutBehind_cons_of_suffix (ended : ending <:+ current ++ [a]) (rest : List α) :
    cutBehind ending current (a :: rest) = (current ++ [a]) :: cutBehind ending [] rest := by
  rw [cutBehind, if_pos (List.isSuffixOf_iff_suffix.2 ended)]

private theorem cutBehind_cons_of_not_suffix (goesOn : ¬ending <:+ current ++ [a]) (rest : List α) :
    cutBehind ending current (a :: rest) = cutBehind ending (current ++ [a]) rest := by
  rw [cutBehind, if_neg (mt List.isSuffixOf_iff_suffix.1 goesOn)]

variable {first last : α} (apart : first ≠ last)
include apart

/-- A piece in which the end does not begin earlier is cut off as it is. -/
theorem cutBehind_append {front : List α} (inner : first ∉ front) (rest : List α) :
    cutBehind [first, last] [] (front ++ [first, last] ++ rest) =
      (front ++ [first, last]) :: cutBehind [first, last] [] rest := by
  -- What was read already does not hold the first of the two either, so no cut is made before the end of `front`.
  suffices read : ∀ current, first ∉ current →
      cutBehind [first, last] current (front ++ [first, last] ++ rest) =
        (current ++ front ++ [first, last]) :: cutBehind [first, last] [] rest from read [] List.not_mem_nil
  induction front with
  | nil =>
    intro current fresh
    have early : ¬[first, last] <:+ current ++ [first] := by
      rintro ⟨before, same⟩
      have lasts := congrArg List.getLast? same
      simp only [List.getLast?_append, List.getLast?_cons_cons, List.getLast?_singleton, Option.some_or,
        Option.some.injEq] at lasts
      exact apart lasts.symm
    have ended : [first, last] <:+ current ++ [first] ++ [last] := by
      rw [List.append_assoc]
      exact List.suffix_append _ _
    rw [List.nil_append, List.cons_append, cutBehind_cons_of_not_suffix early, List.cons_append,
      cutBehind_cons_of_suffix ended]
    simp
  | cons b front ih =>
    intro current fresh
    rw [List.mem_cons, not_or] at inner
    have fresh' : first ∉ current ++ [b] := by simp [fresh, inner.1]
    have early : ¬[first, last] <:+ current ++ [b] := fun ends => fresh' (ends.subset List.mem_cons_self)
    rw [List.cons_append, List.cons_append, cutBehind_cons_of_not_suffix early, ih inner.2 _ fresh']
    simp

private theorem cutBehind_flatMap {β : Type} {pieces : β → List α} {items : List β}
    (ends : ∀ b ∈ items, ∃ front, pieces b = front ++ [first, last] ∧ first ∉ front) :
    cutBehind [first, last] [] (items.flatMap pieces) = items.map pieces := by
  induction items with
  | nil => rfl
  | cons b items ih =>
    rw [List.forall_mem_cons] at ends
    obtain ⟨front, split, inner⟩ := ends.1
    rw [List.flatMap_cons, split, cutBehind_append apart inner, ih ends.2, List.map_cons, split]

end

private theorem Body.lines_indented (b : Body) : ∀ l ∈ b.lines, 0 < l.depth ∨ l.content = "" := by
  have guard (nullGuard : Bool) : ∀ l ∈ guardLines nullGuard, 0 < l.depth ∨ l.content = "" := by
    cases nullGuard with
    | false => intro l mem; cases mem
    | true => decide
  cases b with
  | subtraction cType nullGuard =>
    rw [Body.lines, List.forall_mem_append]
    exact ⟨guard nullGuard, by simp⟩
  | branching cType nullGuard =>
    rw [Body.lines, List.forall_mem_append]
    exact ⟨guard nullGuard, by simp [Line.blank]⟩
  | dictionary key value => simp [Body.lines]

private theorem row_ne_brace {l : Line} (h : 0 < l.depth ∨ l.content = "") : l.row ≠ ['\x7d'] := by
  intro same
  have head := congrArg List.head? same
  obtain ⟨depth, content⟩ := l
  cases depth with
  | zero =>
    obtain empty := h.resolve_left (Nat.lt_irrefl 0)
    rw [row_margin, show content = "" from empty] at head
    cases head
  | succ depth =>
    rw [Line.row, String.toList_append, toList_indentation, Nat.mul_succ] at head
    cases head

private theorem definitionRows_front (f : CFunction) :
    ∃ front, definitionRows f = front ++ [['\x7d'], []] ∧ ['\x7d'] ∉ front := by
  refine ⟨(f.signature ++ " \x7b").toList :: f.body.lines.map Line.row, ?_, ?_⟩
  · simp [definitionRows, CFunction.lines, Line.row, Line.blank, indentation]
  · rw [List.mem_cons, not_or]
    constructor
    · intro same
      have last := congrArg List.getLast? same
      simp at last
    · rw [List.mem_map]
      rintro ⟨l, mem, same⟩
      exact row_ne_brace (f.body.lines_indented l mem) same

/-- Cut behind its definitions, a text gives those of the single functions, in order. -/
theorem definitionsIn_sourceText {functions : List CFunction} (unbroken : ∀ f ∈ functions, f.Unbroken) :
    definitionsIn (sourceText .definitions functions) = functions.map fun f => sourceText .definitions [f] := by
  have rows : rowsOf (sourceText .definitions functions) = functions.flatMap definitionRows :=
    rowsOf_sourceText unbroken .definitions
  have brace : ['\x7d'] ≠ [] := List.cons_ne_nil _ _
  rw [definitionsIn, rows, cutBehind_flatMap brace fun f _ => definitionRows_front f, List.map_map]
  refine List.map_congr_left fun f _ => ?_
  rw [← String.toList_inj, toList_definitions, List.flatMap_singleton, Function.comp_apply, String.toList_ofList]

end CollectionGlue
