import CollectionGlue.Numerals
import CollectionGlue.Proofs.JsonGrammar
import Mathlib.Tactic.SplitIfs

/-! # Numerals of the grammar, as the scanner splits them off

What the scanner takes is a numeral, and it takes the whole of a numeral that is not followed by a
character with which it could go on.
-/
namespace CollectionGlue

def NumeralStops (r : List Char) : Prop :=
  ∀ c ∈ r.head?, c.isDigit = false ∧ c ≠ '.' ∧ c ≠ 'e' ∧ c ≠ 'E'

variable {text s r digits : List Char}

private theorem scanDigits_append (all : digits.all Char.isDigit = true)
    (stop : ∀ c ∈ r.head?, c.isDigit = false) : scanDigits (digits ++ r) = (digits, r) := by
  rw [List.all_eq_true] at all
  have rest : r.takeWhile Char.isDigit = [] ∧ r.dropWhile Char.isDigit = r := by
    cases r with
    | nil => exact ⟨rfl, rfl⟩
    | cons c r => simp [stop c rfl]
  rw [scanDigits, List.takeWhile_append_of_pos all, List.dropWhile_append_of_pos all, rest.1, rest.2,
    List.append_nil]

private theorem scanDigits_eq (h : scanDigits s = (digits, r)) :
    s = digits ++ r ∧ digits.all Char.isDigit = true := by
  obtain ⟨rfl, rfl⟩ := Prod.mk.inj h
  exact ⟨List.takeWhile_append_dropWhile.symm, List.all_takeWhile⟩

theorem IsDigits.exists_cons (h : IsDigits digits) :
    ∃ c more, digits = c :: more ∧ c.isDigit = true := by
  obtain ⟨some_digit, all⟩ := h
  obtain ⟨c, more, rfl⟩ := List.exists_cons_of_ne_nil some_digit
  exact ⟨c, more, rfl, (Bool.and_eq_true_iff.1 all).1⟩

private theorem scanSomeDigits_append (atEnd : Cause) (h : IsDigits digits)
    (stop : ∀ c ∈ r.head?, c.isDigit = false) : scanSomeDigits atEnd (digits ++ r) = .ok (digits, r) := by
  have split := scanDigits_append h.2 stop
  obtain ⟨c, more, rfl, digit⟩ := h.exists_cons
  rw [List.cons_append] at split ⊢
  rw [scanSomeDigits, if_pos digit, split]

private theorem scanSomeDigits_eq_ok {atEnd : Cause} (h : scanSomeDigits atEnd s = .ok (digits, r)) :
    IsDigits digits ∧ s = digits ++ r := by
  cases s with
  | nil => cases h
  | cons c s =>
    rw [scanSomeDigits] at h
    split at h
    · rename_i digit
      obtain ⟨whole, all⟩ := scanDigits_eq (Except.ok.inj h)
      have first := congrArg Prod.fst (Except.ok.inj h)
      rw [scanDigits, List.takeWhile_cons, if_pos digit] at first
      subst first
      exact ⟨⟨List.cons_ne_nil _ _, all⟩, whole⟩
    · cases h

theorem IsWhole.exists_cons (h : IsWhole text) : ∃ c more, text = c :: more ∧ c.isDigit = true := by
  rcases h with rfl | ⟨digits, -⟩
  · exact ⟨'0', [], rfl, rfl⟩
  · exact digits.exists_cons

private theorem scanWhole_append (atEnd : Cause) (h : IsWhole text) (stop : ∀ c ∈ r.head?, c.isDigit = false) :
    scanWhole atEnd (text ++ r) = .ok (text, r) := by
  rcases h with rfl | ⟨all, first⟩
  · rw [List.singleton_append, scanWhole, if_pos rfl, if_neg]
    cases r with
    | nil => exact Bool.false_ne_true
    | cons c r => simp [stop c rfl]
  · have split := scanDigits_append all.2 stop
    obtain ⟨c, more, rfl, digit⟩ := all.exists_cons
    rw [List.cons_append] at split ⊢
    rw [scanWhole, if_neg (fun zero => first (congrArg some zero)), if_pos digit, split]

private theorem scanWhole_eq_ok {atEnd : Cause} (h : scanWhole atEnd s = .ok (text, r)) :
    IsWhole text ∧ s = text ++ r := by
  cases s with
  | nil => cases h
  | cons c s =>
    rw [scanWhole] at h
    split at h
    · rename_i zero
      split at h
      · cases h
      · cases h
        exact ⟨.inl rfl, by rw [zero]; rfl⟩
    · split at h
      · rename_i other digit
        obtain ⟨whole, all⟩ := scanDigits_eq (Except.ok.inj h)
        have first := congrArg Prod.fst (Except.ok.inj h)
        rw [scanDigits, List.takeWhile_cons, if_pos digit] at first
        subst first
        refine ⟨.inr ⟨⟨List.cons_ne_nil _ _, all⟩, ?_⟩, whole⟩
        exact fun zero => other (Option.some.inj zero)
      · cases h

private theorem scanFraction_append (atEnd : Cause) (h : IsFraction text)
    (stop : ∀ c ∈ r.head?, c.isDigit = false ∧ c ≠ '.') :
    ∃ digits, scanFraction atEnd (text ++ r) = .ok (digits, r) := by
  rcases h with rfl | ⟨digits, all, rfl⟩
  · refine ⟨[], ?_⟩
    cases r with
    | nil => rfl
    | cons c r => rw [List.nil_append, scanFraction, if_neg (stop c rfl).2]
  · refine ⟨digits, ?_⟩
    rw [List.cons_append, scanFraction, if_pos rfl]
    exact scanSomeDigits_append atEnd all fun c first => (stop c first).1

private theorem scanFraction_eq_ok {atEnd : Cause} (h : scanFraction atEnd s = .ok (digits, r)) :
    ∃ text, IsFraction text ∧ s = text ++ r := by
  cases s with
  | nil => cases h; exact ⟨[], .inl rfl, rfl⟩
  | cons c s =>
    rw [scanFraction] at h
    split at h
    · rename_i point
      subst point
      obtain ⟨all, rfl⟩ := scanSomeDigits_eq_ok h
      exact ⟨'.' :: digits, .inr ⟨digits, all, rfl⟩, rfl⟩
    · cases h
      exact ⟨[], .inl rfl, rfl⟩

private theorem scanSign_append {sign : List Char} (h : sign = [] ∨ sign = ['+'] ∨ sign = ['-'])
    (all : IsDigits digits) (r : List Char) :
    (scanSign (sign ++ (digits ++ r))).2 = digits ++ r := by
  obtain ⟨c, more, rfl, digit⟩ := all.exists_cons
  rcases h with rfl | rfl | rfl
  · rw [List.nil_append, List.cons_append, scanSign, if_neg, if_neg]
    · rintro rfl; cases digit
    · rintro rfl; cases digit
  · rfl
  · rfl

private theorem scanSign_eq (s : List Char) :
    ∃ sign, (sign = [] ∨ sign = ['+'] ∨ sign = ['-']) ∧ s = sign ++ (scanSign s).2 := by
  cases s with
  | nil => exact ⟨[], .inl rfl, rfl⟩
  | cons c s =>
    rw [scanSign]
    split_ifs with minus plus
    · exact ⟨['-'], .inr (.inr rfl), by rw [minus]; rfl⟩
    · exact ⟨['+'], .inr (.inl rfl), by rw [plus]; rfl⟩
    · exact ⟨[], .inl rfl, rfl⟩

private theorem scanExponent_append (atEnd : Cause) (h : IsExponent text) (stop : NumeralStops r) :
    ∃ exponent, scanExponent atEnd (text ++ r) = .ok (exponent, r) := by
  rcases h with rfl | ⟨mark, sign, digits, isMark, isSign, all, rfl⟩
  · refine ⟨none, ?_⟩
    cases r with
    | nil => rfl
    | cons c r =>
      have other : ¬(c = 'e' ∨ c = 'E') := not_or.2 (stop c rfl).2.2
      rw [List.nil_append, scanExponent, if_neg other]
  · have scanned := scanSomeDigits_append atEnd all fun c first => (stop c first).1
    refine ⟨some ((scanSign (sign ++ (digits ++ r))).1, digits), ?_⟩
    rw [List.cons_append, List.append_assoc, scanExponent, if_pos isMark, scanSign_append isSign all, scanned]
    rfl

private theorem scanExponent_eq_ok {atEnd : Cause} {exponent : Option (Bool × List Char)}
    (h : scanExponent atEnd s = .ok (exponent, r)) : ∃ text, IsExponent text ∧ s = text ++ r := by
  cases s with
  | nil => cases h; exact ⟨[], .inl rfl, rfl⟩
  | cons c s =>
    rw [scanExponent] at h
    split at h
    · rename_i isMark
      obtain ⟨⟨digits, t⟩, scanned, same⟩ := map_eq_ok_iff.1 h
      cases same
      obtain ⟨all, after⟩ := scanSomeDigits_eq_ok scanned
      obtain ⟨sign, isSign, before⟩ := scanSign_eq s
      refine ⟨c :: (sign ++ digits), .inr ⟨c, sign, digits, isMark, isSign, all, rfl⟩, ?_⟩
      rw [List.cons_append, List.append_assoc, ← after, ← before]
    · cases h
      exact ⟨[], .inl rfl, rfl⟩

private theorem scanMinus_append {minus whole : List Char} (h : minus = [] ∨ minus = ['-']) (form : IsWhole whole)
    (r : List Char) : (scanMinus (minus ++ (whole ++ r))).2 = whole ++ r := by
  obtain ⟨c, more, rfl, digit⟩ := form.exists_cons
  rcases h with rfl | rfl
  · rw [List.nil_append, List.cons_append, scanMinus, if_neg]
    rintro rfl
    cases digit
  · rfl

private theorem scanMinus_eq (s : List Char) :
    ∃ minus, (minus = [] ∨ minus = ['-']) ∧ s = minus ++ (scanMinus s).2 := by
  cases s with
  | nil => exact ⟨[], .inl rfl, rfl⟩
  | cons c s =>
    rw [scanMinus]
    split_ifs with minus
    · exact ⟨['-'], .inr rfl, by rw [minus]; rfl⟩
    · exact ⟨[], .inl rfl, rfl⟩

theorem IsExponent.head_append (h : IsExponent text) (stop : NumeralStops r) :
    ∀ c ∈ (text ++ r).head?, c.isDigit = false ∧ c ≠ '.' := by
  rcases h with rfl | ⟨mark, sign, digits, isMark, -, -, rfl⟩
  · exact fun c first => ⟨(stop c first).1, (stop c first).2.1⟩
  · intro c first
    cases first
    rcases isMark with rfl | rfl <;> decide

theorem IsFraction.head_append (h : IsFraction text)
    (stop : ∀ c ∈ r.head?, c.isDigit = false ∧ c ≠ '.') :
    ∀ c ∈ (text ++ r).head?, c.isDigit = false := by
  rcases h with rfl | ⟨digits, -, rfl⟩
  · exact fun c first => (stop c first).1
  · intro c first
    cases first
    rfl

theorem scanNumeral_append (atEnd : Cause) (form : IsNumeral text) (stop : NumeralStops r) :
    ∃ numeral, scanNumeral atEnd (text ++ r) = .ok (numeral, r) := by
  obtain ⟨minus, whole, fraction, exponent, isMinus, isWhole, isFraction, isExponent, rfl⟩ := form
  have afterFraction := isExponent.head_append stop
  have afterWhole := isFraction.head_append afterFraction
  obtain ⟨digits, hfraction⟩ := scanFraction_append atEnd isFraction afterFraction
  obtain ⟨found, hexponent⟩ := scanExponent_append atEnd isExponent stop
  have hwhole := scanWhole_append atEnd isWhole afterWhole
  have all : minus ++ (whole ++ (fraction ++ exponent)) ++ r =
      minus ++ (whole ++ (fraction ++ (exponent ++ r))) := by
    simp only [List.append_assoc]
  refine ⟨⟨(scanMinus (minus ++ (whole ++ (fraction ++ (exponent ++ r))))).1, whole, digits, found⟩, ?_⟩
  rw [all, scanNumeral, scanMinus_append isMinus isWhole]
  exact bind_eq_ok_iff.2 ⟨_, hwhole, bind_eq_ok_iff.2 ⟨_, hfraction, bind_eq_ok_iff.2 ⟨_, hexponent, rfl⟩⟩⟩

theorem scanNumeral_eq_ok {atEnd : Cause} {numeral : Numeral}
    (h : scanNumeral atEnd s = .ok (numeral, r)) : ∃ text, IsNumeral text ∧ s = text ++ r := by
  obtain ⟨⟨whole, s₁⟩, hwhole, h⟩ := bind_eq_ok_iff.1 h
  obtain ⟨⟨digits, s₂⟩, hfraction, h⟩ := bind_eq_ok_iff.1 h
  obtain ⟨⟨found, s₃⟩, hexponent, h⟩ := bind_eq_ok_iff.1 h
  cases h
  obtain ⟨minus, isMinus, sign⟩ := scanMinus_eq s
  obtain ⟨isWhole, afterMinus⟩ := scanWhole_eq_ok hwhole
  obtain ⟨fraction, isFraction, afterWhole⟩ := scanFraction_eq_ok hfraction
  obtain ⟨exponent, isExponent, afterFraction⟩ := scanExponent_eq_ok hexponent
  refine ⟨minus ++ (whole ++ (fraction ++ exponent)),
    ⟨minus, whole, fraction, exponent, isMinus, isWhole, isFraction, isExponent, rfl⟩, ?_⟩
  calc
    s = minus ++ (whole ++ (fraction ++ (exponent ++ r))) := by
      rw [← afterFraction, ← afterWhole, ← afterMinus, ← sign]
    _ = minus ++ (whole ++ (fraction ++ exponent)) ++ r := by simp only [List.append_assoc]

end CollectionGlue
