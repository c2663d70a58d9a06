import CollectionGlue.DocumentParts
import CollectionGlue.TypeEntries

/-! # Type entries read from JSON in one pass

An entry is written as a record, in which unknown keys are passed over, or as a list of its fields
in declared order. A field that stands twice, or is missing, is a fault of its entry.
-/
namespace CollectionGlue

def scanText (s : List Char) : Except Fault (String × List Char) :=
  match skipBlanks s with
  | [] => .error (.behind .endInValue [])
  | c :: r =>
    if c = '"' then (scanString r).map fun (text, rest) => (String.ofList text, rest)
    else .error (mismatch .string (c :: r))

def scanNull (s : List Char) : Except Fault (List Char) :=
  match skipBlanks s with
  | [] => .error (.behind .endInValue [])
  | c :: r =>
    if c = 'n' then scanLiteral ['u', 'l', 'l'] r else .error (mismatch .null (c :: r))

/-- A spelling that may be null. -/
def scanSpelling (s : List Char) : Except Fault (Option String × List Char) :=
  match skipBlanks s with
  | [] => .error (.behind .endInValue [])
  | c :: r =>
    if c = 'n' then (scanLiteral ['u', 'l', 'l'] r).map fun rest => (none, rest)
    else (scanText (c :: r)).map fun (text, rest) => (some text, rest)

/-- The name of a signedness, from behind its opening quote. -/
def scanSignednessName (s : List Char) : Except Fault (Signedness × List Char) := do
  let (text, rest) ← scanString s
  match Signedness.ofName? (String.ofList text) with
  | some signedness => return (signedness, rest)
  | none => .error (.behind (.unknownSignedness (String.ofList text)) rest)

/-- The key of a record that must have one, up to and with its opening quote. -/
def openOnlyKey (s : List Char) : Except Fault (List Char) :=
  match skipBlanks s with
  | [] => .error (.behind .endInRecord [])
  | c :: r =>
    if c = '"' then .ok r
    else .error (.upon (if c = '\x7d' then .expectedValue else .keyNotString) (c :: r))

/-- The name of a signedness, or a record with that name as its one key and null as its value. -/
def scanSignedness (s : List Char) : Except Fault (Signedness × List Char) :=
  match skipBlanks s with
  | [] => .error (.behind .endInValue [])
  | c :: r =>
    if c = '"' then scanSignednessName r
    else if c = '\x7b' then do
      let r ← openOnlyKey r
      let (signedness, r) ← scanSignednessName r
      let r ← scanColon r
      let r ← within (.key signedness.name) (scanNull r)
      match skipBlanks r with
      | [] => .error (.behind .endInRecord [])
      | d :: t =>
        if d = '\x7d' then return (signedness, t) else .error (.behind .expectedValue (d :: t))
    else .error (.upon .expectedValue (c :: r))

/-- The fields of an entry that have been read. -/
structure EntryFields where
  tag : Option String
  signedness : Option Signedness
  cType : Option (Option String)

def EntryFields.initial : EntryFields := ⟨none, none, none⟩

/-- The value of a member that was not given before. -/
def scanField {α : Type} (given : Option α) (key : String)
    (scan : List Char → Except Fault (α × List Char)) (s : List Char) : Except Fault (α × List Char) :=
  if given.isSome then .error (.behind (.repeatedField key) (leaveRecord s))
  else scanColon s >>= fun r => within (.key key) (scan r)

def passMember (key : String) (s : List Char) : Except Fault (List Char) :=
  scanColon s >>= fun r => within (.key key) (passValue r)

def EntryFields.scanMember (given : EntryFields) (key : String) (s : List Char) :
    Except Fault (EntryFields × List Char) :=
  if key = "tag" then
    (scanField given.tag key scanText s).map fun (tag, r) => ({ given with tag := some tag }, r)
  else if key = "signedness" then
    (scanField given.signedness key scanSignedness s).map fun (signedness, r) =>
      ({ given with signedness := some signedness }, r)
  else if key = "c_type" then
    (scanField given.cType key scanSpelling s).map fun (cType, r) =>
      ({ given with cType := some cType }, r)
  else (passMember key s).map fun r => (given, r)

/-- The entry with the fields given in a record that ends before `rest`. -/
def EntryFields.entry (given : EntryFields) (rest : List Char) : Except Fault TypeEntry :=
  match given.tag, given.signedness with
  | none, _ => .error (.behind (.missingField "tag") rest)
  | some _, none => .error (.behind (.missingField "signedness") rest)
  | some tag, some signedness => .ok ⟨tag, signedness, given.cType.getD none⟩

private theorem length_lt_of_scanText {s r : List Char} {text : String}
    (h : scanText s = .ok (text, r)) : r.length < s.length := by
  have blanks := length_skipBlanks_le s
  unfold scanText at h
  split at h
  · simp at h
  rename_i c t ht
  simp only [ht, List.length_cons] at blanks
  split at h
  · obtain ⟨⟨_, u⟩, h₁, h₂⟩ := map_eq_ok_iff.1 h
    simp only [Prod.mk.injEq] at h₂
    have := h₂.2 ▸ length_lt_of_scanString h₁
    omega
  · simp at h

private theorem length_lt_of_scanNull {s r : List Char} (h : scanNull s = .ok r) :
    r.length < s.length := by
  have blanks := length_skipBlanks_le s
  unfold scanNull at h
  split at h
  · simp at h
  rename_i c t ht
  simp only [ht, List.length_cons] at blanks
  split at h
  · have := length_le_of_scanLiteral h; omega
  · simp at h

private theorem length_lt_of_scanSpelling {s r : List Char} {cType : Option String}
    (h : scanSpelling s = .ok (cType, r)) : r.length < s.length := by
  have blanks := length_skipBlanks_le s
  unfold scanSpelling at h
  split at h
  · simp at h
  rename_i c t ht
  simp only [ht, List.length_cons] at blanks
  split at h
  · obtain ⟨u, h₁, h₂⟩ := map_eq_ok_iff.1 h
    simp only [Prod.mk.injEq] at h₂
    have := h₂.2 ▸ length_le_of_scanLiteral h₁
    omega
  · obtain ⟨⟨_, u⟩, h₁, h₂⟩ := map_eq_ok_iff.1 h
    simp only [Prod.mk.injEq] at h₂
    have := h₂.2 ▸ length_lt_of_scanText h₁
    simp only [List.length_cons] at this
    omega

private theorem length_lt_of_scanSignednessName {s r : List Char} {signedness : Signedness}
    (h : scanSignednessName s = .ok (signedness, r)) : r.length < s.length := by
  obtain ⟨⟨text, u⟩, h₁, h₂⟩ := bind_eq_ok_iff.1 h
  have := length_lt_of_scanString h₁
  dsimp only at h₂
  split at h₂
  · simp only [pure_eq_ok_iff, Prod.mk.injEq] at h₂
    exact h₂.2 ▸ this
  · simp at h₂

private theorem length_lt_of_openOnlyKey {s r : List Char} (h : openOnlyKey s = .ok r) :
    r.length < s.length := by
  have := length_skipBlanks_le s
  unfold openOnlyKey at h
  grind

private theorem length_lt_of_scanSignedness {s r : List Char} {signedness : Signedness}
    (h : scanSignedness s = .ok (signedness, r)) : r.length < s.length := by
  have blanks := length_skipBlanks_le s
  unfold scanSignedness at h
  split at h
  · simp at h
  rename_i c t ht
  simp only [ht, List.length_cons] at blanks
  split at h
  · have := length_lt_of_scanSignednessName h
    omega
  split at h
  · obtain ⟨t₁, h₀, h⟩ := bind_eq_ok_iff.1 h
    obtain ⟨⟨name, u⟩, h₁, h⟩ := bind_eq_ok_iff.1 h
    obtain ⟨v, h₂, h⟩ := bind_eq_ok_iff.1 h
    obtain ⟨w, h₃, h⟩ := bind_eq_ok_iff.1 h
    have := length_lt_of_openOnlyKey h₀
    have := length_lt_of_scanSignednessName h₁
    have := length_lt_of_scanColon h₂
    have := length_lt_of_scanNull (within_eq_ok_iff.1 h₃)
    have := length_skipBlanks_le w
    split at h
    · simp at h
    · simp_all only [List.length_cons]
      split at h
      · simp only [pure_eq_ok_iff, Prod.mk.injEq] at h
        have := h.2
        subst this
        omega
      · simp at h
  · simp at h

theorem length_le_of_scanField {α : Type} {given : Option α} {key : String}
    {scan : List Char → Except Fault (α × List Char)} {s r : List Char} {value : α}
    (shorter : ∀ {s r value}, scan s = .ok (value, r) → r.length < s.length)
    (h : scanField given key scan s = .ok (value, r)) : r.length ≤ s.length := by
  unfold scanField at h
  split at h
  · simp at h
  · obtain ⟨t, h₁, h₂⟩ := bind_eq_ok_iff.1 h
    have := length_lt_of_scanColon h₁
    have := shorter (within_eq_ok_iff.1 h₂)
    omega

theorem length_le_of_passMember {key : String} {s r : List Char} (h : passMember key s = .ok r) :
    r.length ≤ s.length := by
  obtain ⟨t, h₁, h₂⟩ := bind_eq_ok_iff.1 h
  have := length_lt_of_scanColon h₁
  have := length_lt_of_passValue (within_eq_ok_iff.1 h₂)
  omega

private theorem EntryFields.length_le_of_scanMember {given given' : EntryFields} {key : String}
    {s r : List Char} (h : given.scanMember key s = .ok (given', r)) : r.length ≤ s.length := by
  unfold EntryFields.scanMember at h
  split at h
  · obtain ⟨⟨_, t⟩, h₁, h₂⟩ := map_eq_ok_iff.1 h
    simp only [Prod.mk.injEq] at h₂
    exact h₂.2 ▸ length_le_of_scanField length_lt_of_scanText h₁
  split at h
  · obtain ⟨⟨_, t⟩, h₁, h₂⟩ := map_eq_ok_iff.1 h
    simp only [Prod.mk.injEq] at h₂
    exact h₂.2 ▸ length_le_of_scanField length_lt_of_scanSignedness h₁
  split at h
  · obtain ⟨⟨_, t⟩, h₁, h₂⟩ := map_eq_ok_iff.1 h
    simp only [Prod.mk.injEq] at h₂
    exact h₂.2 ▸ length_le_of_scanField length_lt_of_scanSpelling h₁
  · obtain ⟨t, h₁, h₂⟩ := map_eq_ok_iff.1 h
    simp only [Prod.mk.injEq] at h₂
    exact h₂.2 ▸ length_le_of_passMember h₁

def entryShape : RecordShape EntryFields := ⟨EntryFields.scanMember, EntryFields.length_le_of_scanMember⟩

/-- An entry as a record, from behind its opening brace. -/
def scanEntryRecord (s : List Char) : Except Fault (TypeEntry × List Char) := do
  let (given, r) ← entryShape.scan true .initial s
  let entry ← given.entry r
  return (entry, r)

/-- A field of a list of fields; the list may end before it with `ended`. -/
def scanListed {α : Type} (index : Nat) (ended : List Char → Except Fault (α × List Char))
    (present : List Char → Except Fault (α × List Char)) (s : List Char) :
    Except Fault (α × List Char) := do
  let (more, r) ← nextElement (index == 0) s
  if more then present r else ended r

/-- The optional last field of an entry, with the end of the list. -/
def scanLastField (s : List Char) : Except Fault (Option String × List Char) :=
  scanListed 2 (fun r => .ok (none, r))
    (fun r => do
      let (cType, r) ← within (.index 2) (scanSpelling r)
      let r ← closeList r
      return (cType, r)) s

def scanRequired {α : Type} (wanted : Wanted) (index : Nat)
    (scan : List Char → Except Fault (α × List Char)) (s : List Char) : Except Fault (α × List Char) :=
  scanListed index (fun r => .error (.behind (.invalidLength index wanted) r))
    (fun r => within (.index index) (scan r)) s

/-- An entry as a list of its fields, from behind its opening bracket. -/
def scanEntryList (s : List Char) : Except Fault (TypeEntry × List Char) := do
  let (tag, r) ← scanRequired .entry 0 scanText s
  let (signedness, r) ← scanRequired .entry 1 scanSignedness r
  let (cType, r) ← scanLastField r
  return (⟨tag, signedness, cType⟩, r)

def scanEntry (s : List Char) : Except Fault (TypeEntry × List Char) :=
  match skipBlanks s with
  | [] => .error (.behind .endInValue [])
  | c :: r =>
    if c = '[' then scanEntryList r
    else if c = '\x7b' then scanEntryRecord r
    else .error (mismatch .entry (c :: r))

private theorem length_lt_of_scanEntryRecord {s r : List Char} {entry : TypeEntry}
    (h : scanEntryRecord s = .ok (entry, r)) : r.length < s.length := by
  obtain ⟨⟨given, t⟩, h₁, h⟩ := bind_eq_ok_iff.1 h
  obtain ⟨entry', h₂, h⟩ := bind_eq_ok_iff.1 h
  simp only [pure_eq_ok_iff, Prod.mk.injEq] at h
  exact h.2 ▸ RecordShape.length_lt_of_scan h₁

private theorem length_le_of_scanRequired {α : Type} {wanted : Wanted} {index : Nat}
    {scan : List Char → Except Fault (α × List Char)} {s r : List Char} {value : α}
    (shorter : ∀ {s r value}, scan s = .ok (value, r) → r.length < s.length)
    (h : scanRequired wanted index scan s = .ok (value, r)) : r.length < s.length := by
  obtain ⟨⟨more, t⟩, h₁, h⟩ := bind_eq_ok_iff.1 h
  have := length_le_of_nextElement h₁
  dsimp only at h
  split at h
  · have := shorter (within_eq_ok_iff.1 h)
    omega
  · simp at h

private theorem length_le_of_scanLastField {s r : List Char} {cType : Option String}
    (h : scanLastField s = .ok (cType, r)) : r.length ≤ s.length := by
  obtain ⟨⟨more, t⟩, h₁, h⟩ := bind_eq_ok_iff.1 h
  have := length_le_of_nextElement h₁
  dsimp only at h
  split at h
  · obtain ⟨⟨_, u⟩, h₂, h⟩ := bind_eq_ok_iff.1 h
    obtain ⟨v, h₃, h⟩ := bind_eq_ok_iff.1 h
    have := length_lt_of_scanSpelling (within_eq_ok_iff.1 h₂)
    have : v.length < u.length := length_lt_of_closeList h₃
    simp only [pure_eq_ok_iff, Prod.mk.injEq] at h
    rw [← h.2]
    omega
  · simp only [Except.ok.injEq, Prod.mk.injEq] at h
    rw [← h.2]
    omega

private theorem length_lt_of_scanEntryList {s r : List Char} {entry : TypeEntry}
    (h : scanEntryList s = .ok (entry, r)) : r.length < s.length := by
  obtain ⟨⟨tag, s₁⟩, h₁, h⟩ := bind_eq_ok_iff.1 h
  obtain ⟨⟨signedness, s₂⟩, h₂, h⟩ := bind_eq_ok_iff.1 h
  obtain ⟨⟨cType, s₃⟩, h₃, h⟩ := bind_eq_ok_iff.1 h
  have := length_le_of_scanRequired length_lt_of_scanText h₁
  have := length_le_of_scanRequired length_lt_of_scanSignedness h₂
  have := length_le_of_scanLastField h₃
  simp only [pure_eq_ok_iff, Prod.mk.injEq] at h
  rw [← h.2]
  omega

theorem length_lt_of_scanEntry {s r : List Char} {entry : TypeEntry}
    (h : scanEntry s = .ok (entry, r)) : r.length < s.length := by
  have blanks := length_skipBlanks_le s
  unfold scanEntry at h
  split at h
  · simp at h
  rename_i c t ht
  simp only [ht, List.length_cons] at blanks
  split at h
  · have := length_lt_of_scanEntryList h; omega
  split at h
  · have := length_lt_of_scanEntryRecord h; omega
  · simp at h

end CollectionGlue
