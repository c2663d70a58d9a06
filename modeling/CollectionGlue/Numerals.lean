import CollectionGlue.TextScanning

/-! # Numerals: the form of a number and the value it stands for

`scanNumeral` splits a numeral into its digits and knows nothing of their value; `Numeral.value?`
computes the value and knows nothing of the text.
-/
namespace CollectionGlue

structure Numeral where
  negative : Bool
  whole : List Char
  fraction : List Char
  /-- Sign and digits of the exponent; no exponent is written without digits. -/
  exponent : Option (Bool × List Char)
  deriving DecidableEq, Repr

def scanDigits (s : List Char) : List Char × List Char :=
  (s.takeWhile Char.isDigit, s.dropWhile Char.isDigit)

/-- A whole part: a single zero, or digits that do not begin with one. -/
def scanWhole (atEnd : Cause) : List Char → Except Fault (List Char × List Char)
  | [] => .error (.behind atEnd [])
  | c :: s =>
    if c = '0' then
      if (s.head?.map Char.isDigit).getD false then .error (.upon .invalidNumber s)
      else .ok (['0'], s)
    else if c.isDigit then .ok (scanDigits (c :: s))
    else .error (.upon .invalidNumber (c :: s))

/-- One digit or more. -/
def scanSomeDigits (atEnd : Cause) : List Char → Except Fault (List Char × List Char)
  | [] => .error (.behind atEnd [])
  | c :: s =>
    if c.isDigit then .ok (scanDigits (c :: s)) else .error (.upon .invalidNumber (c :: s))

def scanFraction (atEnd : Cause) : List Char → Except Fault (List Char × List Char)
  | [] => .ok ([], [])
  | c :: s => if c = '.' then scanSomeDigits atEnd s else .ok ([], c :: s)

def scanSign : List Char → Bool × List Char
  | [] => (false, [])
  | c :: s => if c = '-' then (true, s) else if c = '+' then (false, s) else (false, c :: s)

def scanExponent (atEnd : Cause) : List Char → Except Fault (Option (Bool × List Char) × List Char)
  | [] => .ok (none, [])
  | c :: s =>
    if c = 'e' ∨ c = 'E' then
      (scanSomeDigits atEnd (scanSign s).2).map fun (digits, rest) =>
        (some ((scanSign s).1, digits), rest)
    else .ok (none, c :: s)

def scanMinus : List Char → Bool × List Char
  | [] => (false, [])
  | c :: s => if c = '-' then (true, s) else (false, c :: s)

/-- Splits off a numeral; `atEnd` is the cause of a fault when the text ends where a digit is
needed. -/
def scanNumeral (atEnd : Cause) (s : List Char) : Except Fault (Numeral × List Char) := do
  let (whole, r) ← scanWhole atEnd (scanMinus s).2
  let (fraction, r) ← scanFraction atEnd r
  let (exponent, r) ← scanExponent atEnd r
  return (⟨(scanMinus s).1, whole, fraction, exponent⟩, r)

private theorem length_le_scanDigits (s : List Char) : (scanDigits s).2.length ≤ s.length :=
  (List.dropWhile_suffix _).length_le

private theorem length_lt_scanDigits {c : Char} {s : List Char} (h : c.isDigit = true) :
    (scanDigits (c :: s)).2.length < (c :: s).length := by
  have := length_le_scanDigits s
  simp only [scanDigits, List.dropWhile_cons, h, if_true, List.length_cons] at *
  omega

private theorem length_lt_of_scanWhole {atEnd : Cause} {s r digits : List Char}
    (h : scanWhole atEnd s = .ok (digits, r)) : r.length < s.length := by
  cases s with
  | nil => simp [scanWhole] at h
  | cons c s =>
    rw [scanWhole] at h
    split at h
    · split at h
      · simp at h
      · simp only [Except.ok.injEq, Prod.mk.injEq] at h; simp [h.2]
    · split at h
      · rename_i digit
        have := length_lt_scanDigits (s := s) digit
        simp_all
      · simp at h

private theorem length_lt_of_scanSomeDigits {atEnd : Cause} {s r digits : List Char}
    (h : scanSomeDigits atEnd s = .ok (digits, r)) : r.length < s.length := by
  cases s with
  | nil => simp [scanSomeDigits] at h
  | cons c s =>
    rw [scanSomeDigits] at h
    split at h
    · rename_i digit
      have := length_lt_scanDigits (s := s) digit
      simp_all
    · simp at h

private theorem length_le_of_scanFraction {atEnd : Cause} {s r digits : List Char}
    (h : scanFraction atEnd s = .ok (digits, r)) : r.length ≤ s.length := by
  cases s with
  | nil => simp_all [scanFraction]
  | cons c s =>
    rw [scanFraction] at h
    split at h
    · have := length_lt_of_scanSomeDigits h
      simp only [List.length_cons]; omega
    · simp_all

private theorem length_scanSign_le (s : List Char) : (scanSign s).2.length ≤ s.length := by
  cases s <;> grind [scanSign]

private theorem length_scanMinus_le (s : List Char) : (scanMinus s).2.length ≤ s.length := by
  cases s <;> grind [scanMinus]

private theorem length_le_of_scanExponent {atEnd : Cause} {s r : List Char}
    {exponent : Option (Bool × List Char)} (h : scanExponent atEnd s = .ok (exponent, r)) :
    r.length ≤ s.length := by
  cases s with
  | nil => simp_all [scanExponent]
  | cons c s =>
    rw [scanExponent] at h
    split at h
    · obtain ⟨⟨digits, t⟩, h₁, h₂⟩ := map_eq_ok_iff.1 h
      have := length_lt_of_scanSomeDigits h₁
      have := length_scanSign_le s
      simp only [Prod.mk.injEq] at h₂
      simp only [List.length_cons, ← h₂.2]
      omega
    · simp_all

theorem length_lt_of_scanNumeral {atEnd : Cause} {s r : List Char} {numeral : Numeral}
    (h : scanNumeral atEnd s = .ok (numeral, r)) : r.length < s.length := by
  obtain ⟨⟨whole, s₁⟩, h₁, h⟩ := bind_eq_ok_iff.1 h
  obtain ⟨⟨fraction, s₂⟩, h₂, h⟩ := bind_eq_ok_iff.1 h
  obtain ⟨⟨exponent, s₃⟩, h₃, h⟩ := bind_eq_ok_iff.1 h
  have := length_scanMinus_le s
  have := length_lt_of_scanWhole h₁
  have := length_le_of_scanFraction h₂
  have := length_le_of_scanExponent h₃
  simp only [pure_eq_ok_iff, Prod.mk.injEq] at h
  rw [← h.2]
  omega

def digitValue (c : Char) : Nat := c.toNat - '0'.toNat

def significandLimit : Nat := Nat.pow 2 64

def exponentLimit : Nat := Nat.pow 2 31

/-- Appends digits to a number for as long as it stays below the limit; returns the digits left. -/
def absorbDigits (limit n : Nat) : List Char → Nat × List Char
  | [] => (n, [])
  | c :: cs =>
    if n * 10 + digitValue c < limit then absorbDigits limit (n * 10 + digitValue c) cs
    else (n, c :: cs)

/-- Digits of the whole part that do not fit the significand only raise the exponent. -/
def Numeral.wholeSignificand (x : Numeral) : Nat × Nat :=
  let (n, left) := absorbDigits significandLimit 0 x.whole
  (n, left.length)

/-- The significand, and the exponent that goes with it before the written one is added. Digits
after the point that do not fit are dropped. -/
def Numeral.significand (x : Numeral) : Nat × Int :=
  let (n, dropped) := x.wholeSignificand
  let (m, left) := absorbDigits significandLimit n x.fraction
  (m, dropped - (x.fraction.length - left.length : Nat))

/-- A numeral without point and exponent whose digits all fit is an integer, unless it is `-0` or
below the least 64-bit integer. -/
def Numeral.integer? (x : Numeral) : Option Int :=
  let (n, dropped) := x.wholeSignificand
  if x.fraction.isEmpty ∧ x.exponent = none ∧ dropped = 0 then
    if x.negative then if 0 < n ∧ n ≤ Nat.pow 2 63 then some (-n) else none
    else some n
  else none

/-- The value of a numeral; where there is none, the digits of the exponent that were not needed to
see it. -/
def Numeral.value (x : Numeral) : Except (List Char) JsonNumber :=
  match x.integer? with
  | some n => .ok (.integer n)
  | none =>
    let (m, base) := x.significand
    let (below, digits) := x.exponent.getD (false, [])
    let (e, left) := absorbDigits exponentLimit 0 digits
    if left ≠ [] then
      if m = 0 ∨ below then .ok (.float x.negative .zero) else .error (left.drop 1)
    else
      match Binary64.ofDecimal? m (if below then base - e else base + e) with
      | some magnitude => .ok (.float x.negative magnitude)
      | none => .error []

/-- A numeral whose value is wanted. -/
def scanNumber (s : List Char) : Except Fault (JsonNumber × List Char) := do
  let (numeral, rest) ← scanNumeral .endInValue s
  match numeral.value with
  | .ok value => return (value, rest)
  | .error left => .error (.behind .numberOutOfRange (left ++ rest))

end CollectionGlue
