import CollectionGlue.Numerals

/-! # Passing over a value of any shape

The brackets that are open are kept in a list, so that nesting has no limit.
-/
namespace CollectionGlue

inductive Bracket | list | record
  deriving DecidableEq, Repr

def passScalar : List Char → Except Fault (List Char)
  | [] => .error (.behind .endInValue [])
  | c :: s =>
    if c = 'n' then scanLiteral ['u', 'l', 'l'] s
    else if c = 't' then scanLiteral ['r', 'u', 'e'] s
    else if c = 'f' then scanLiteral ['a', 'l', 's', 'e'] s
    else if c = '"' then passString s
    else if c = '-' ∨ c.isDigit then (scanNumeral .invalidNumber (c :: s)).map (·.2)
    else .error (.upon .expectedValue (c :: s))

/-- The colon between a key and its value. -/
def scanColon (s : List Char) : Except Fault (List Char) :=
  match skipBlanks s with
  | [] => .error (.behind .endInRecord [])
  | c :: r => if c = ':' then .ok r else .error (.upon .expectedColon (c :: r))

/-- A key and its colon. -/
def passKey (s : List Char) : Except Fault (List Char) :=
  match skipBlanks s with
  | [] => .error (.behind .endInRecord [])
  | c :: r => if c = '"' then passString r >>= scanColon else .error (.upon .keyNotString (c :: r))

private theorem length_lt_of_passScalar {s r : List Char} (h : passScalar s = .ok r) :
    r.length < s.length := by
  cases s with
  | nil => simp [passScalar] at h
  | cons c s =>
    rw [passScalar] at h
    simp only [List.length_cons]
    split at h
    · have := length_le_of_scanLiteral h; omega
    split at h
    · have := length_le_of_scanLiteral h; omega
    split at h
    · have := length_le_of_scanLiteral h; omega
    split at h
    · have := length_lt_of_passString h; omega
    split at h
    · obtain ⟨⟨numeral, t⟩, h₁, rfl⟩ := map_eq_ok_iff.1 h
      exact length_lt_of_scanNumeral h₁
    · simp at h

theorem length_lt_of_scanColon {s r : List Char} (h : scanColon s = .ok r) :
    r.length < s.length := by
  have := length_skipBlanks_le s
  unfold scanColon at h
  grind

theorem length_lt_of_passKey {s r : List Char} (h : passKey s = .ok r) : r.length < s.length := by
  have := length_skipBlanks_le s
  unfold passKey at h
  split at h
  · simp at h
  · rename_i c t ht
    split at h
    · obtain ⟨u, h₁, h₂⟩ := bind_eq_ok_iff.1 h
      have := length_lt_of_passString h₁
      have := length_lt_of_scanColon h₂
      simp only [ht, List.length_cons] at *
      omega
    · simp at h

mutual

/-- Passes over a value inside the brackets `outer`, and then over all that they still hold. -/
def passInside (outer : List Bracket) (s : List Char) : Except Fault (List Char) :=
  match _ : skipBlanks s with
  | [] => .error (.behind .endInValue [])
  | c :: r =>
    if c = '[' then
      match _ : skipBlanks r with
      | [] => .error (.behind .endInList [])
      | d :: t => if d = ']' then passAfter outer t else passInside (.list :: outer) (d :: t)
    else if c = '\x7b' then
      match _ : skipBlanks r with
      | [] => .error (.behind .endInRecord [])
      | d :: t =>
        if d = '\x7d' then passAfter outer t
        else
          match _ : passKey (d :: t) with
          | .ok u => passInside (.record :: outer) u
          | .error fault => .error fault
    else
      match _ : passScalar (c :: r) with
      | .ok t => passAfter outer t
      | .error fault => .error fault
termination_by s.length
decreasing_by
  all_goals
    have := length_skipBlanks_le s
    have := length_skipBlanks_le r
    try have := length_lt_of_passKey ‹_›
    try have := length_lt_of_passScalar ‹_›
    simp_all only [List.length_cons]
    omega

/-- Goes on behind a value inside the brackets `outer`. -/
def passAfter (outer : List Bracket) (s : List Char) : Except Fault (List Char) :=
  match outer with
  | [] => .ok s
  | .list :: further =>
    match _ : skipBlanks s with
    | [] => .error (.behind .endInList [])
    | c :: r =>
      if c = ',' then passInside (.list :: further) r
      else if c = ']' then passAfter further r
      else .error (.upon .expectedListSeparator (c :: r))
  | .record :: further =>
    match _ : skipBlanks s with
    | [] => .error (.behind .endInRecord [])
    | c :: r =>
      if c = ',' then
        match _ : passKey r with
        | .ok t => passInside (.record :: further) t
        | .error fault => .error fault
      else if c = '\x7d' then passAfter further r
      else .error (.upon .expectedRecordSeparator (c :: r))
termination_by s.length
decreasing_by
  all_goals
    have := length_skipBlanks_le s
    try have := length_lt_of_passKey ‹_›
    simp_all only [List.length_cons]
    omega

end

/-- Passes over one value. -/
def passValue (s : List Char) : Except Fault (List Char) := passInside [] s

private theorem length_of_pass (bound : Nat) (s : List Char) (short : s.length ≤ bound) :
    (∀ outer r, passInside outer s = .ok r → r.length < s.length) ∧
      ∀ outer r, passAfter outer s = .ok r → r.length ≤ s.length := by
  induction bound generalizing s with
  | zero =>
    have empty : s = [] := List.length_eq_zero_iff.1 (by omega)
    subst empty
    refine ⟨fun outer r h => ?_, fun outer r h => ?_⟩
    · rw [passInside] at h
      simp [skipBlanks] at h
    · rw [passAfter.eq_def] at h
      split at h <;> simp_all [skipBlanks]
  | succ bound ih =>
    have blanks := length_skipBlanks_le s
    refine ⟨fun outer r h => ?_, fun outer r h => ?_⟩
    · rw [passInside] at h
      split at h
      · simp at h
      rename_i c t ht
      simp only [ht, List.length_cons] at blanks
      have blanks' := length_skipBlanks_le t
      split at h
      · split at h
        · simp at h
        rename_i d u hu
        simp only [hu, List.length_cons] at blanks'
        split at h
        · have := (ih u (by omega)).2 _ _ h; omega
        · have := (ih (d :: u) (by simp only [List.length_cons]; omega)).1 _ _ h
          simp only [List.length_cons] at this; omega
      split at h
      · split at h
        · simp at h
        rename_i d u hu
        simp only [hu, List.length_cons] at blanks'
        split at h
        · have := (ih u (by omega)).2 _ _ h; omega
        split at h
        · rename_i v hv
          have key := length_lt_of_passKey hv
          simp only [List.length_cons] at key
          have := (ih v (by omega)).1 _ _ h; omega
        · simp at h
      · split at h
        · rename_i u hu
          have scalar := length_lt_of_passScalar hu
          simp only [List.length_cons] at scalar
          have := (ih u (by omega)).2 _ _ h; omega
        · simp at h
    · rw [passAfter.eq_def] at h
      split at h
      · simp_all
      all_goals
        split at h
        · simp at h
        rename_i c t ht
        simp only [ht, List.length_cons] at blanks
        split at h
      · have := (ih t (by omega)).1 _ _ h; omega
      · split at h
        · have := (ih t (by omega)).2 _ _ h; omega
        · simp at h
      · split at h
        · rename_i u hu
          have key := length_lt_of_passKey hu
          have := (ih u (by omega)).1 _ _ h; omega
        · simp at h
      · split at h
        · have := (ih t (by omega)).2 _ _ h; omega
        · simp at h

theorem length_lt_of_passValue {s r : List Char} (h : passValue s = .ok r) : r.length < s.length :=
  (length_of_pass s.length s (Nat.le_refl _)).1 _ _ h

end CollectionGlue
