import CollectionGlue.ReadingFaults
import CollectionGlue.SuccessfulSteps

/-! # Scanners for the leaves of a JSON document: blanks, literals, strings and numerals

A scanner takes the text from where it stands and returns what it read with the text that is left,
which is never longer.
-/
namespace CollectionGlue

def isBlank (c : Char) : Bool := c == ' ' || c == '\t' || c == '\n' || c == '\r'

def skipBlanks (s : List Char) : List Char := s.dropWhile isBlank

theorem length_skipBlanks_le (s : List Char) : (skipBlanks s).length ≤ s.length :=
  (List.dropWhile_suffix _).length_le

theorem skipBlanks_append {gap : List Char} (blank : gap.all isBlank = true) (s : List Char) :
    skipBlanks (gap ++ s) = skipBlanks s :=
  List.dropWhile_append_of_pos (List.all_eq_true.1 blank)

theorem skipBlanks_cons {c : Char} (h : isBlank c = false) (s : List Char) :
    skipBlanks (c :: s) = c :: s := by
  simp [skipBlanks, h]

/-- The rest of a literal whose first letter has been consumed. -/
def scanLiteral : List Char → List Char → Except Fault (List Char)
  | [], s => .ok s
  | _ :: _, [] => .error (.behind .endInValue [])
  | e :: es, c :: s => if c = e then scanLiteral es s else .error (.upon .expectedLiteral (c :: s))

theorem length_le_of_scanLiteral {es s r : List Char} (h : scanLiteral es s = .ok r) :
    r.length ≤ s.length := by
  induction es generalizing s with
  | nil => simp only [scanLiteral, Except.ok.injEq] at h; simp [h]
  | cons e es ih => cases s <;> grind [scanLiteral]

def hexValue? (c : Char) : Option Nat :=
  if c.isDigit then some (c.toNat - '0'.toNat)
  else if 'a' ≤ c ∧ c ≤ 'f' then some (c.toNat - 'a'.toNat + 10)
  else if 'A' ≤ c ∧ c ≤ 'F' then some (c.toNat - 'A'.toNat + 10)
  else none

def fourHexDigits? : List Char → Option (Nat × List Char)
  | a :: b :: c :: d :: s =>
    match hexValue? a, hexValue? b, hexValue? c, hexValue? d with
    | some i, some j, some k, some l => some (((i * 16 + j) * 16 + k) * 16 + l, s)
    | _, _, _, _ => none
  | _ => none

/-- Four bytes are taken whatever they hold, if there are as many. -/
def scanCodeUnit (s : List Char) : Except Fault (Nat × List Char) :=
  match fourHexDigits? s with
  | some found => .ok found
  | none =>
    if byteLength s < 4 then .error (.behind .endInString [])
    else .error ⟨.invalidEscape, [], s, 4⟩

/-- A character without which a surrogate pair breaks off. -/
def scanPairLink (link : Char) : List Char → Except Fault (List Char)
  | [] => .error (.behind .endInString [])
  | c :: s => if c = link then .ok s else .error (.upon .unfinishedSurrogatePair (c :: s))

def isHighSurrogate (n : Nat) : Bool := 0xD800 ≤ n && n ≤ 0xDBFF

def isLowSurrogate (n : Nat) : Bool := 0xDC00 ≤ n && n ≤ 0xDFFF

def joinedSurrogates (high low : Nat) : Char :=
  Char.ofNat (0x10000 + (high - 0xD800) * 0x400 + (low - 0xDC00))

/-- The character after `\u`, written by one code unit or by a pair of surrogates. -/
def scanUnicodeEscape (s : List Char) : Except Fault (Char × List Char) := do
  let (n, s) ← scanCodeUnit s
  if isLowSurrogate n then .error (.behind .loneSurrogate s)
  else if isHighSurrogate n then
    let s ← scanPairLink '\\' s
    let s ← scanPairLink 'u' s
    let (m, s) ← scanCodeUnit s
    if isLowSurrogate m then .ok (joinedSurrogates n m, s) else .error (.behind .loneSurrogate s)
  else .ok (Char.ofNat n, s)

/-- The characters that one letter after a backslash stands for. -/
def escapeLetter? (c : Char) : Option Char :=
  if c = '"' ∨ c = '\\' ∨ c = '/' then some c
  else if c = 'b' then some '\x08'
  else if c = 'f' then some '\x0c'
  else if c = 'n' then some '\n'
  else if c = 'r' then some '\r'
  else if c = 't' then some '\t'
  else none

/-- The character that the text after a backslash stands for. -/
def scanEscape : List Char → Except Fault (Char × List Char)
  | [] => .error (.behind .endInString [])
  | c :: s =>
    if c = 'u' then scanUnicodeEscape s
    else match escapeLetter? c with
      | some meant => .ok (meant, s)
      | none => .error (.upon .invalidEscape (c :: s))

private theorem length_le_of_scanCodeUnit {s r : List Char} {n : Nat} (h : scanCodeUnit s = .ok (n, r)) :
    r.length ≤ s.length := by
  unfold scanCodeUnit fourHexDigits? at h
  grind

private theorem length_le_of_scanPairLink {link : Char} {s r : List Char} (h : scanPairLink link s = .ok r) :
    r.length ≤ s.length := by
  cases s <;> grind [scanPairLink]

private theorem length_le_of_scanUnicodeEscape {s r : List Char} {c : Char}
    (h : scanUnicodeEscape s = .ok (c, r)) : r.length ≤ s.length := by
  obtain ⟨⟨n, s₁⟩, h₁, h⟩ := bind_eq_ok_iff.1 h
  have := length_le_of_scanCodeUnit h₁
  dsimp only at h
  split at h
  · simp at h
  split at h
  · obtain ⟨s₂, h₂, h⟩ := bind_eq_ok_iff.1 h
    obtain ⟨s₃, h₃, h⟩ := bind_eq_ok_iff.1 h
    obtain ⟨⟨m, s₄⟩, h₄, h⟩ := bind_eq_ok_iff.1 h
    have := length_le_of_scanPairLink h₂
    have := length_le_of_scanPairLink h₃
    have := length_le_of_scanCodeUnit h₄
    grind
  · grind

private theorem length_lt_of_scanEscape {s r : List Char} {c : Char} (h : scanEscape s = .ok (c, r)) :
    r.length < s.length := by
  cases s with
  | nil => simp [scanEscape] at h
  | cons d s =>
    rw [scanEscape] at h
    split at h
    · have := length_le_of_scanUnicodeEscape h
      simp only [List.length_cons]; omega
    · grind

/-- The text of a string that is kept, from behind its opening quote. -/
def scanString : List Char → Except Fault (List Char × List Char)
  | [] => .error (.behind .endInString [])
  | c :: s =>
    if c = '"' then .ok ([], s)
    else if c = '\\' then
      match _ : scanEscape s with
      | .ok (meant, r) => (scanString r).map fun (text, rest) => (meant :: text, rest)
      | .error fault => .error fault
    else if c.toNat < 0x20 then .error (.upon .controlCharacter (c :: s))
    else (scanString s).map fun (text, rest) => (c :: text, rest)
termination_by s => s.length
decreasing_by
  · have := length_lt_of_scanEscape ‹_›; simp only [List.length_cons]; omega
  · simp

theorem length_lt_of_scanString {s r text : List Char} (h : scanString s = .ok (text, r)) :
    r.length < s.length := by
  fun_induction scanString s generalizing text with
  | case1 => simp at h
  | case2 => grind
  | case3 s meant r' he _ ih =>
    obtain ⟨⟨_, _⟩, h₁, h₂⟩ := map_eq_ok_iff.1 h
    have := length_lt_of_scanEscape he
    simp only [Prod.mk.injEq] at h₂
    have := ih (h₂.2 ▸ h₁)
    simp only [List.length_cons]; omega
  | case4 => simp at h
  | case5 => simp at h
  | case6 c s _ _ _ ih =>
    obtain ⟨⟨_, _⟩, h₁, h₂⟩ := map_eq_ok_iff.1 h
    simp only [Prod.mk.injEq] at h₂
    have := ih (h₂.2 ▸ h₁)
    simp only [List.length_cons]; omega

/-- An escape of a string that is passed over: surrogates need not be paired. -/
def passEscape : List Char → Except Fault (List Char)
  | [] => .error (.behind .endInString [])
  | c :: s =>
    if c = 'u' then (scanCodeUnit s).map (·.2)
    else if (escapeLetter? c).isSome then .ok s
    else .error (.upon .invalidEscape (c :: s))

private theorem length_lt_of_passEscape {s r : List Char} (h : passEscape s = .ok r) :
    r.length < s.length := by
  cases s with
  | nil => simp [passEscape] at h
  | cons c s =>
    rw [passEscape] at h
    split at h
    · obtain ⟨⟨n, t⟩, h₁, h₂⟩ := map_eq_ok_iff.1 h
      have := length_le_of_scanCodeUnit h₁
      subst h₂
      simp only [List.length_cons]; omega
    · grind

/-- Passes over a string, from behind its opening quote. -/
def passString : List Char → Except Fault (List Char)
  | [] => .error (.behind .endInString [])
  | c :: s =>
    if c = '"' then .ok s
    else if c = '\\' then
      match _ : passEscape s with
      | .ok r => passString r
      | .error fault => .error fault
    else if c.toNat < 0x20 then .error (.behind .controlCharacter (c :: s))
    else passString s
termination_by s => s.length
decreasing_by
  · have := length_lt_of_passEscape ‹_›; simp only [List.length_cons]; omega
  · simp

theorem length_lt_of_passString {s r : List Char} (h : passString s = .ok r) :
    r.length < s.length := by
  fun_induction passString s with
  | case1 => simp at h
  | case2 => grind
  | case3 s r' he _ ih =>
    have := length_lt_of_passEscape he
    have := ih h
    simp only [List.length_cons]; omega
  | case4 => simp at h
  | case5 => simp at h
  | case6 c s _ _ _ ih =>
    have := ih h
    simp only [List.length_cons]; omega

end CollectionGlue
