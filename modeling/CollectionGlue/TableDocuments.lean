import CollectionGlue.EntryDocuments

/-! # Lists of entries and type tables read from JSON in one pass

A table is written like an entry, as a record or as a list of its one field. Text behind the value
that a document begins with is left alone.
-/
namespace CollectionGlue

/-- The elements of a list of entries from the given index on. -/
def scanEntriesFrom (index : Nat) (s : List Char) : Except Fault (List TypeEntry × List Char) :=
  match _ : nextElement (index == 0) s with
  | .error fault => .error fault
  | .ok (false, r) => .ok ([], r)
  | .ok (true, r) =>
    match _ : within (.index index) (scanEntry r) with
    | .error fault => .error fault
    | .ok (entry, t) =>
      (scanEntriesFrom (index + 1) t).map fun (entries, rest) => (entry :: entries, rest)
termination_by s.length
decreasing_by
  have := length_le_of_nextElement ‹_›
  have := length_lt_of_scanEntry (within_eq_ok_iff.1 ‹_›)
  omega

def scanEntries (s : List Char) : Except Fault (List TypeEntry × List Char) :=
  match skipBlanks s with
  | [] => .error (.behind .endInValue [])
  | c :: r =>
    if c = '[' then scanEntriesFrom 0 r else .error (mismatch .sequence (c :: r))

private theorem length_le_of_scanEntriesFrom {index : Nat} {s r : List Char} {entries : List TypeEntry}
    (h : scanEntriesFrom index s = .ok (entries, r)) : r.length ≤ s.length := by
  fun_induction scanEntriesFrom index s generalizing entries with
  | case1 => simp at h
  | case2 index s t closed =>
    have := length_le_of_nextElement closed
    simp only [Except.ok.injEq, Prod.mk.injEq] at h
    exact h.2 ▸ this
  | case3 => simp at h
  | case4 index s t more entry u hentry ih =>
    have := length_le_of_nextElement more
    have := length_lt_of_scanEntry (within_eq_ok_iff.1 hentry)
    obtain ⟨⟨_, v⟩, h₁, h₂⟩ := map_eq_ok_iff.1 h
    simp only [Prod.mk.injEq] at h₂
    have := ih (h₂.2 ▸ h₁)
    omega

private theorem length_lt_of_scanEntries {s r : List Char} {entries : List TypeEntry}
    (h : scanEntries s = .ok (entries, r)) : r.length < s.length := by
  have blanks := length_skipBlanks_le s
  unfold scanEntries at h
  split at h
  · simp at h
  rename_i c t ht
  simp only [ht, List.length_cons] at blanks
  split at h
  · have := length_le_of_scanEntriesFrom h; omega
  · simp at h

def scanTableMember (given : Option (List TypeEntry)) (key : String) (s : List Char) :
    Except Fault (Option (List TypeEntry) × List Char) :=
  if key = "types" then
    (scanField given key scanEntries s).map fun (entries, r) => (some entries, r)
  else (passMember key s).map fun r => (given, r)

private theorem length_le_of_scanTableMember {given given' : Option (List TypeEntry)} {key : String}
    {s r : List Char} (h : scanTableMember given key s = .ok (given', r)) : r.length ≤ s.length := by
  unfold scanTableMember at h
  split at h
  · obtain ⟨⟨_, t⟩, h₁, h₂⟩ := map_eq_ok_iff.1 h
    simp only [Prod.mk.injEq] at h₂
    exact h₂.2 ▸ length_le_of_scanField length_lt_of_scanEntries h₁
  · obtain ⟨t, h₁, h₂⟩ := map_eq_ok_iff.1 h
    simp only [Prod.mk.injEq] at h₂
    exact h₂.2 ▸ length_le_of_passMember h₁

def tableShape : RecordShape (Option (List TypeEntry)) := ⟨scanTableMember, length_le_of_scanTableMember⟩

/-- A table as a record, from behind its opening brace. -/
def scanTableRecord (s : List Char) : Except Fault (List TypeEntry × List Char) := do
  let (given, r) ← tableShape.scan true none s
  match given with
  | some entries => return (entries, r)
  | none => .error (.behind (.missingField "types") r)

/-- A table as a list of its one field, from behind its opening bracket. -/
def scanTableList (s : List Char) : Except Fault (List TypeEntry × List Char) := do
  let (entries, r) ← scanRequired .table 0 scanEntries s
  let r ← closeList r
  return (entries, r)

/-- The entries of a table. -/
def scanTable (s : List Char) : Except Fault (List TypeEntry × List Char) :=
  match skipBlanks s with
  | [] => .error (.behind .endInValue [])
  | c :: r =>
    if c = '[' then scanTableList r
    else if c = '\x7b' then scanTableRecord r
    else .error (mismatch .table (c :: r))

def readDocument {α : Type} (scan : List Char → Except Fault (α × List Char)) (source : String) :
    Except DocumentFault α :=
  match scan source.toList with
  | .ok (value, _) => .ok value
  | .error fault => .error (fault.located source.toList)

def readSignedness (source : String) : Except DocumentFault Signedness :=
  readDocument scanSignedness source

def readEntry (source : String) : Except DocumentFault TypeEntry := readDocument scanEntry source

def readEntries (source : String) : Except DocumentFault (List TypeEntry) :=
  readDocument scanEntries source

def readTable (source : String) : Except DocumentFault (List TypeEntry) :=
  readDocument scanTable source

end CollectionGlue
