import CollectionGlue.Proofs.TextRows
import Mathlib.Data.List.Infix

/-! # How often a word occurs in a text

A word is looked for at every place of a text. A character that the word does not hold parts its occurrences, so
they may be counted on either side of it, and a word without line break is counted row by row.
-/
namespace CollectionGlue

def countWord (word text : List Char) : Nat := text.tails.countP fun rest => word.isPrefixOf rest

/-- The number of places of a text at which a word begins. -/
def occurrences (word text : String) : Nat := countWord word.toList text.toList

private theorem countWord_nil {word : List Char} (some_word : word ≠ []) : countWord word [] = 0 := by
  obtain ⟨c, rest, rfl⟩ := List.exists_cons_of_ne_nil some_word
  rfl

private theorem countWord_cons (word : List Char) (c : Char) (text : List Char) :
    countWord word (c :: text) = (if word <+: c :: text then 1 else 0) + countWord word text := by
  rw [countWord, List.tails_cons, List.countP_cons, Nat.add_comm, countWord]
  simp only [List.isPrefixOf_iff_prefix]

theorem countWord_eq_zero_iff {word text : List Char} : countWord word text = 0 ↔ ¬word <:+: text := by
  rw [countWord, List.countP_eq_zero, List.infix_iff_prefix_suffix]
  simp only [List.mem_tails, List.isPrefixOf_iff_prefix, not_exists, not_and]
  exact forall_congr' fun rest => imp_not_comm

/-- A word does not occur where one of its characters is missing. -/
theorem countWord_eq_zero {word text : List Char} {c : Char} (mem : c ∈ word) (missing : c ∉ text) :
    countWord word text = 0 :=
  countWord_eq_zero_iff.2 fun found => missing (found.subset mem)

section
variable {word : List Char} (some_word : word ≠ []) {sep : Char} (parted : sep ∉ word)
include some_word parted

theorem prefix_append_cons_iff (text rest : List Char) : word <+: text ++ sep :: rest ↔ word <+: text := by
  constructor
  · intro found
    rcases List.prefix_or_prefix_of_prefix found (List.prefix_append text (sep :: rest)) with within | ⟨more, rfl⟩
    · exact within
    · rw [List.prefix_append_right_inj] at found
      cases more with
      | nil => simp
      | cons c more =>
        obtain rfl : c = sep := (List.cons_prefix_cons.1 found).1
        exact absurd (List.mem_append_right text List.mem_cons_self) parted
  · exact fun within => within.trans (List.prefix_append text (sep :: rest))

theorem countWord_append_cons (text rest : List Char) :
    countWord word (text ++ sep :: rest) = countWord word text + countWord word rest := by
  induction text with
  | nil =>
    have other : ¬word <+: sep :: rest := by
      intro found
      exact some_word (List.prefix_nil.1 ((prefix_append_cons_iff some_word parted [] rest).1 found))
    rw [List.nil_append, countWord_cons, if_neg other, countWord_nil some_word]
  | cons c text ih =>
    have here := prefix_append_cons_iff some_word parted (c :: text) rest
    rw [List.cons_append] at here
    rw [List.cons_append, countWord_cons, countWord_cons, ih, Nat.add_assoc]
    simp only [here]

end

section
variable {word : List Char} (some_word : word ≠ []) (unbroken : '\n' ∉ word)
include some_word unbroken

theorem countWord_rowsText_cons (row : List Char) (rows : List (List Char)) :
    countWord word (rowsText (row :: rows)) = countWord word row + countWord word (rowsText rows) := by
  have text : rowsText (row :: rows) = row ++ '\n' :: rowsText rows := by simp [rowsText]
  rw [text, countWord_append_cons some_word unbroken]

theorem countWord_rowsText_append (rows more : List (List Char)) :
    countWord word (rowsText (rows ++ more)) = countWord word (rowsText rows) + countWord word (rowsText more) := by
  induction rows with
  | nil =>
    have none : rowsText ([] : List (List Char)) = [] := rfl
    rw [List.nil_append, none, countWord_nil some_word, Nat.zero_add]
  | cons row rows ih =>
    rw [List.cons_append, countWord_rowsText_cons some_word unbroken, countWord_rowsText_cons some_word unbroken, ih,
      Nat.add_assoc]

end

end CollectionGlue
