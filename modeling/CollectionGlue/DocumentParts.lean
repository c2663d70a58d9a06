import CollectionGlue.PassedValues

/-! # The parts of lists and records: separators, keys and faults of type -/
namespace CollectionGlue

def Wanted.fault (wanted : Wanted) (found : Found) (rest : List Char) : Fault :=
  .behind (.invalidType found wanted) rest

/-- The fault of a text that does not begin as wanted. A scalar is read to its end first, and a fault
inside it comes before the fault of type. -/
def mismatch (wanted : Wanted) : List Char → Fault
  | [] => .behind .expectedValue []
  | c :: s =>
    let after (found : Found) : Except Fault (List Char) → Fault
      | .ok r => wanted.fault found r
      | .error fault => fault
    if c = 'n' then after .null (scanLiteral ['u', 'l', 'l'] s)
    else if c = 't' then after (.boolean true) (scanLiteral ['r', 'u', 'e'] s)
    else if c = 'f' then after (.boolean false) (scanLiteral ['a', 'l', 's', 'e'] s)
    else if c = '"' then
      match scanString s with
      | .ok (text, r) => wanted.fault (.string (String.ofList text)) r
      | .error fault => fault
    else if c = '-' ∨ c.isDigit then
      match scanNumber (c :: s) with
      | .ok (number, r) => wanted.fault (.number number) r
      | .error fault => fault
    else if c = '[' then wanted.fault .sequence (c :: s)
    else if c = '\x7b' then wanted.fault .record (c :: s)
    else .upon .expectedValue (c :: s)

/-- Notes the step from a value to its part in the faults of the part. -/
def within {α : Type} (step : Step) (x : Except Fault α) : Except Fault α :=
  x.mapError (Fault.within step)

theorem within_eq_ok_iff {α : Type} {step : Step} {x : Except Fault α} {a : α} :
    within step x = .ok a ↔ x = .ok a :=
  mapError_eq_ok_iff

/-- Looks for the next element of a list, the text of which follows `true`; the text behind the list
follows `false`. -/
def nextElement (first : Bool) (s : List Char) : Except Fault (Bool × List Char) :=
  match skipBlanks s with
  | [] => .error (.behind .endInList [])
  | c :: r =>
    if c = ']' then .ok (false, r)
    else if first then .ok (true, c :: r)
    else if c = ',' then
      match skipBlanks r with
      | [] => .error (.behind .endInValue [])
      | d :: t => if d = ']' then .error (.upon .trailingComma (d :: t)) else .ok (true, d :: t)
    else .error (.upon .expectedListSeparator (c :: r))

/-- The end of a list that has all its elements. -/
def closeList (s : List Char) : Except Fault (List Char) :=
  match skipBlanks s with
  | [] => .error (.behind .endInList [])
  | c :: r =>
    if c = ']' then .ok r
    else if c = ',' then
      match skipBlanks r with
      | [] => .error (.behind .trailingCharacters [])
      | d :: t => .error (.upon (if d = ']' then .trailingComma else .trailingCharacters) (d :: t))
    else .error (.upon .trailingCharacters (c :: r))

def scanKey (s : List Char) : Except Fault (Option String × List Char) :=
  (scanString s).map fun (text, rest) => (some (String.ofList text), rest)

/-- Looks for the next key of a record; the text behind the record follows `none`. -/
def nextKey (first : Bool) (s : List Char) : Except Fault (Option String × List Char) :=
  match skipBlanks s with
  | [] => .error (.behind .endInRecord [])
  | c :: r =>
    if c = '\x7d' then .ok (none, r)
    else if first then
      if c = '"' then scanKey r else .error (.upon .keyNotString (c :: r))
    else if c = ',' then
      match skipBlanks r with
      | [] => .error (.behind .endInValue [])
      | d :: t =>
        if d = '"' then scanKey t
        else .error (.upon (if d = '\x7d' then .trailingComma else .keyNotString) (d :: t))
    else .error (.upon .expectedRecordSeparator (c :: r))

/-- The text behind a record that is left early. -/
def leaveRecord (s : List Char) : List Char :=
  match skipBlanks s with
  | [] => []
  | c :: r => if c = '\x7d' then r else c :: r

theorem length_le_of_nextElement {first more : Bool} {s r : List Char}
    (h : nextElement first s = .ok (more, r)) : r.length ≤ s.length := by
  have blanks := length_skipBlanks_le s
  unfold nextElement at h
  split at h
  · simp at h
  rename_i c t ht
  have blanks' := length_skipBlanks_le t
  simp only [ht, List.length_cons] at blanks
  grind

theorem length_lt_of_closeList {s r : List Char} (h : closeList s = .ok r) :
    r.length < s.length := by
  have blanks := length_skipBlanks_le s
  unfold closeList at h
  grind

private theorem length_lt_of_scanKey {s r : List Char} {key : Option String}
    (h : scanKey s = .ok (key, r)) : r.length < s.length := by
  obtain ⟨⟨text, t⟩, h₁, h₂⟩ := map_eq_ok_iff.1 h
  simp only [Prod.mk.injEq] at h₂
  exact h₂.2 ▸ length_lt_of_scanString h₁

private theorem length_lt_of_nextKey {first : Bool} {s r : List Char} {key : Option String}
    (h : nextKey first s = .ok (key, r)) : r.length < s.length := by
  have blanks := length_skipBlanks_le s
  unfold nextKey at h
  split at h
  · simp at h
  rename_i c t ht
  have blanks' := length_skipBlanks_le t
  simp only [ht, List.length_cons] at blanks
  split at h
  · simp only [Except.ok.injEq, Prod.mk.injEq] at h
    rw [← h.2]
    omega
  split at h
  · split at h
    · have := length_lt_of_scanKey h; omega
    · simp at h
  split at h
  · split at h
    · simp at h
    rename_i d u hu
    simp only [hu, List.length_cons] at blanks'
    split at h
    · have := length_lt_of_scanKey h; omega
    · simp at h
  · simp at h

/-- How the members of a record are read one after another into a value of `σ`. Each member is given
its key and the text behind the key. -/
structure RecordShape (σ : Type) where
  member : σ → String → List Char → Except Fault (σ × List Char)
  length_le_of_member : ∀ {given key s given' r},
    member given key s = .ok (given', r) → r.length ≤ s.length

/-- Reads members up to the end of their record. -/
def RecordShape.scan {σ : Type} (shape : RecordShape σ) (first : Bool) (given : σ) (s : List Char) :
    Except Fault (σ × List Char) :=
  match _ : within .unknown (nextKey first s) with
  | .error fault => .error fault
  | .ok (none, r) => .ok (given, r)
  | .ok (some key, r) =>
    match _ : shape.member given key r with
    | .error fault => .error fault
    | .ok (given', r') => shape.scan false given' r'
termination_by s.length
decreasing_by
  have := length_lt_of_nextKey (within_eq_ok_iff.1 ‹_›)
  have := shape.length_le_of_member ‹_›
  omega

theorem RecordShape.length_lt_of_scan {σ : Type} {shape : RecordShape σ} {first : Bool}
    {given given' : σ} {s r : List Char} (h : shape.scan first given s = .ok (given', r)) :
    r.length < s.length := by
  fun_induction RecordShape.scan shape first given s with
  | case1 => simp at h
  | case2 first given s t key =>
    simp only [Except.ok.injEq, Prod.mk.injEq] at h
    exact h.2 ▸ length_lt_of_nextKey (within_eq_ok_iff.1 key)
  | case3 => simp at h
  | case4 first given s key t hkey given₁ u hmember ih =>
    have := length_lt_of_nextKey (within_eq_ok_iff.1 hkey)
    have := shape.length_le_of_member hmember
    have := ih h
    omega

end CollectionGlue
