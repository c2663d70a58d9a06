import CollectionGlue.Proofs.BracketNesting
import CollectionGlue.Proofs.TextRows

/-! # Rows placed by the brackets that are open before them

A row either is blank, and then no blank row stands before it, or has its content as many levels deep as
braces and calls are open. What single rows do to the open brackets, a run of rows does to them too.
-/
namespace CollectionGlue

/-- How many braces and parentheses of calls are open. -/
def nestingLevel (opened : List OpenBracket) : Nat := opened.countP (· != .group)

/-- What is open where the content of a row begins: a bracket that it closes at once no longer counts. -/
def openedAt (opened : List OpenBracket) (content : List Char) : List OpenBracket :=
  if content.head? = some '\x7d' ∨ content.head? = some ')' then opened.tail else opened

/-- A row with content, indented by four spaces for each level and without a space at its end. -/
structure Placed (opened : List OpenBracket) (row : List Char) : Prop where
  content : row ≠ []
  indented : (row.takeWhile (· == ' ')).length = 4 * nestingLevel (openedAt opened (row.dropWhile (· == ' ')))
  tight : row.getLast? ≠ some ' '

instance (opened : List OpenBracket) (row : List Char) : Decidable (Placed opened row) :=
  decidable_of_iff (row ≠ [] ∧
      (row.takeWhile (· == ' ')).length = 4 * nestingLevel (openedAt opened (row.dropWhile (· == ' '))) ∧
      row.getLast? ≠ some ' ')
    ⟨fun h => ⟨h.1, h.2.1, h.2.2⟩, fun h => ⟨h.content, h.indented, h.tight⟩⟩

/-- What the next row depends on: the open brackets, and whether a blank row or nothing stands before it. -/
structure RowState where
  opened : List OpenBracket
  afterBlank : Bool

inductive RowStep : RowState → List Char → RowState → Prop
  | blank (opened : List OpenBracket) : RowStep ⟨opened, false⟩ [] ⟨opened, true⟩
  | content {opened next : List OpenBracket} {afterBlank : Bool} {row : List Char} (placed : Placed opened row)
      (nests : Nests opened row next) : RowStep ⟨opened, afterBlank⟩ row ⟨next, false⟩

inductive RowRun : RowState → List (List Char) → RowState → Prop
  | nil (s : RowState) : RowRun s [] s
  | cons {s s' s'' : RowState} {row : List Char} {rows : List (List Char)} (first : RowStep s row s')
      (later : RowRun s' rows s'') : RowRun s (row :: rows) s''

theorem RowRun.append_iff {s s'' : RowState} {rows more : List (List Char)} :
    RowRun s (rows ++ more) s'' ↔ ∃ s', RowRun s rows s' ∧ RowRun s' more s'' := by
  constructor
  · intro h
    induction rows generalizing s with
    | nil => exact ⟨s, .nil s, h⟩
    | cons row rows ih =>
      cases h with
      | cons first later =>
        obtain ⟨s', before, behind⟩ := ih later
        exact ⟨s', .cons first before, behind⟩
  · rintro ⟨s', before, behind⟩
    induction before with
    | nil => exact behind
    | cons first later ih => exact .cons first (ih behind)

theorem RowRun.flatMap {α : Type} {rows : α → List (List Char)} {s : RowState} {items : List α}
    (each : ∀ a ∈ items, RowRun s (rows a) s) : RowRun s (items.flatMap rows) s := by
  induction items with
  | nil => exact .nil s
  | cons a items ih =>
    rw [List.forall_mem_cons] at each
    exact RowRun.append_iff.2 ⟨s, each.1, ih each.2⟩

theorem RowStep.nests {s s' : RowState} {row : List Char} (h : RowStep s row s') : Nests s.opened row s'.opened := by
  cases h with
  | blank opened => exact .nil opened
  | content placed nests => exact nests

theorem RowRun.nests {s s' : RowState} {rows : List (List Char)} (h : RowRun s rows s') :
    Nests s.opened (rowsText rows) s'.opened := by
  induction h with
  | nil s => exact .nil s.opened
  | cons first later ih =>
    have lineBreak (opened : List OpenBracket) : Nests opened ['\n'] opened := fun _ => ⟨_, rfl⟩
    exact (first.nests.append (lineBreak _)).append ih

theorem RowRun.first_ne_nil {opened : List OpenBracket} {s : RowState} {rows : List (List Char)}
    (h : RowRun ⟨opened, true⟩ rows s) : rows.head? ≠ some [] := by
  cases h with
  | nil => simp
  | cons first later =>
    cases first with
    | content placed nests => simpa using placed.content

/-- No blank row follows another. -/
theorem RowRun.no_gap {s s' : RowState} {rows : List (List Char)} (h : RowRun s rows s') :
    ¬[[], []] <:+: rows := by
  rintro ⟨before, behind, rfl⟩
  rw [List.append_assoc] at h
  obtain ⟨s₁, -, h⟩ := RowRun.append_iff.1 h
  cases h with
  | cons first later =>
    cases first with
    | content placed nests => exact placed.content rfl
    | blank opened => exact later.first_ne_nil rfl

theorem RowRun.placed {s s' : RowState} {rows earlier later : List (List Char)} {row : List Char}
    (h : RowRun s rows s') (split : rows = earlier ++ row :: later) :
    ∃ opened, Nests s.opened (rowsText earlier) opened ∧ (row = [] ∨ Placed opened row) := by
  rw [split] at h
  obtain ⟨middle, before, behind⟩ := RowRun.append_iff.1 h
  refine ⟨middle.opened, before.nests, ?_⟩
  cases behind with
  | cons first rest =>
    cases first with
    | blank opened => exact .inl rfl
    | content placed nests => exact .inr placed

private theorem splitOn_break (text : List Char) : ('\n' :: text).splitOn '\n' = [] :: text.splitOn '\n' :=
  splitOn_row_append List.not_mem_nil text

section
variable {text : List Char} {rows : List (List Char)} (cut : text.splitOn '\n' = rows ++ [[]])
include cut

/-- Three line breaks on end take two blank rows on end. -/
theorem no_three_breaks_of_rows (no_gap : ¬[[], []] <:+: rows) : ¬['\n', '\n', '\n'] <:+: text := by
  rintro ⟨before, behind, rfl⟩
  -- Cut at the first of the three breaks, the text goes on with two blank rows, and a last piece is left behind them.
  have joined : (before ++ ['\n', '\n', '\n'] ++ behind).splitOn '\n' =
      before.splitOn '\n' ++ [] :: [] :: behind.splitOn '\n' := by
    rw [List.append_assoc, ← splitOn_break, ← splitOn_break]
    exact List.splitOnP_append_cons _ _ (beq_self_eq_true '\n')
  obtain ⟨front, last, ending⟩ :=
    (List.eq_nil_or_concat (behind.splitOn '\n')).resolve_left (List.splitOn_ne_nil '\n' behind)
  rw [joined, ending] at cut
  have pieces : (before.splitOn '\n' ++ [[], []] ++ front) ++ [last] = rows ++ [[]] := by simpa using cut
  exact no_gap ⟨_, _, List.append_inj_left' pieces rfl⟩

theorem no_first_break_of_rows (no_blank : rows.head? ≠ some []) : text.head? ≠ some '\n' := by
  cases text with
  | nil => simp
  | cons c text =>
    intro head
    obtain rfl : c = '\n' := Option.some.inj head
    rw [splitOn_break] at cut
    cases rows with
    | nil => exact List.splitOn_ne_nil '\n' text (List.cons.inj cut).2
    | cons row rows => exact no_blank (congrArg some (List.cons.inj cut).1.symm)

end

end CollectionGlue
