import CollectionGlue.JsonWriting
import CollectionGlue.TextScanning
import Mathlib.Tactic.SplitIfs

/-! # A string that was written with escapes is read back unchanged

One character is followed through its escape; the string is an induction on its text.
-/
namespace CollectionGlue

/-- The letter that a control character is written with stands for that character. -/
theorem escapeLetter?_controlLetter? {c letter : Char} (h : controlLetter? c = some letter) :
    escapeLetter? letter = some c ∧ letter ≠ 'u' := by
  unfold controlLetter? at h
  split_ifs at h <;> cases h <;> subst_vars <;> decide

private theorem fourHexDigits?_controlCharacter :
    ∀ n < 0x20, ∀ rest : List Char,
      fourHexDigits? ('0' :: '0' :: Nat.digitChar (n / 16) :: Nat.digitChar (n % 16) :: rest) =
        some (n, rest) := by
  intro n small rest
  have high : hexValue? (Nat.digitChar (n / 16)) = some (n / 16) := by
    revert n; decide
  have low : hexValue? (Nat.digitChar (n % 16)) = some (n % 16) := by
    have : ∀ d < 16, hexValue? (Nat.digitChar d) = some d := by decide
    exact this _ (Nat.mod_lt _ (by decide))
  have zero : hexValue? '0' = some 0 := by decide
  simp only [fourHexDigits?, zero, high, low, Option.some.injEq, Prod.mk.injEq, and_true]
  omega

/-- A control character without a letter is written by its code and read back from it. -/
theorem scanUnicodeEscape_controlCharacter {c : Char} (control : c.toNat < 0x20) (rest : List Char) :
    scanUnicodeEscape
        ('0' :: '0' :: Nat.digitChar (c.toNat / 16) :: Nat.digitChar (c.toNat % 16) :: rest) =
      .ok (c, rest) := by
  have unit := fourHexDigits?_controlCharacter c.toNat control rest
  have high : isHighSurrogate c.toNat = false := by
    simp only [isHighSurrogate, Bool.and_eq_false_iff, decide_eq_false_iff_not]; omega
  have low : isLowSurrogate c.toNat = false := by
    simp only [isLowSurrogate, Bool.and_eq_false_iff, decide_eq_false_iff_not]; omega
  simp [scanUnicodeEscape, scanCodeUnit, unit, high, low, bind, Except.bind]

theorem scanString_cons_escape {s r : List Char} {c : Char} (h : scanEscape s = .ok (c, r)) :
    scanString ('\\' :: s) = (scanString r).map fun (text, rest) => (c :: text, rest) := by
  rw [scanString, if_neg (by decide), if_pos rfl]
  split <;> simp_all

/-- The reader takes each character from its escape. -/
theorem scanString_escapedJson (c : Char) (s : List Char) :
    scanString (escapedJson c ++ s) = (scanString s).map fun (text, rest) => (c :: text, rest) := by
  unfold escapedJson
  split_ifs with quoted control
  · apply scanString_cons_escape
    rcases quoted with rfl | rfl <;> simp [scanEscape, escapeLetter?]
  · cases h : controlLetter? c with
    | some letter =>
      obtain ⟨meant, other⟩ := escapeLetter?_controlLetter? h
      apply scanString_cons_escape
      simp [scanEscape, meant, other]
    | none =>
      simp only [List.cons_append, List.nil_append]
      apply scanString_cons_escape
      rw [scanEscape, if_pos rfl]
      exact scanUnicodeEscape_controlCharacter control s
  · rw [not_or] at quoted
    simp only [List.cons_append, List.nil_append]
    rw [scanString, if_neg quoted.1, if_neg quoted.2, if_neg control]

/-- From behind its opening quote, a written string is read back with what follows it left over. -/
theorem scanString_flatMap_escapedJson (text rest : List Char) :
    scanString (text.flatMap escapedJson ++ '"' :: rest) = .ok (text, rest) := by
  induction text with
  | nil => rw [List.flatMap_nil, List.nil_append, scanString, if_pos rfl]
  | cons c text ih =>
    rw [List.flatMap_cons, List.append_assoc, scanString_escapedJson, ih]
    rfl

end CollectionGlue
