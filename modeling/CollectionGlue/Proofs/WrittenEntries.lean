import CollectionGlue.TableDocuments
import CollectionGlue.Proofs.EscapedStrings

/-! # Entries that were written in any layout are read back

A layout says which blanks stand between the parts of a record. The compact text and the indented
text of an entry differ in their layout only, so one induction serves both.
-/
namespace CollectionGlue

/-- The blanks of a record: before each key, between a colon and its value, and before the brace. -/
structure RecordLayout where
  beforeKey : List Char
  beforeValue : List Char
  beforeEnd : List Char
  beforeKey_blank : beforeKey.all isBlank = true := by decide
  beforeValue_blank : beforeValue.all isBlank = true := by decide
  beforeEnd_blank : beforeEnd.all isBlank = true := by decide

def RecordLayout.compact : RecordLayout where
  beforeKey := []
  beforeValue := []
  beforeEnd := []

def RecordLayout.indented : RecordLayout where
  beforeKey := ['\n', ' ', ' ', ' ', ' ', ' ', ' ']
  beforeValue := [' ']
  beforeEnd := ['\n', ' ', ' ', ' ', ' ']

def RecordLayout.memberChars (l : RecordLayout) (member : String × String) : List Char :=
  l.beforeKey ++ (jsonStringChars member.1.toList ++
    ':' :: (l.beforeValue ++ jsonStringChars member.2.toList))

/-- The text of a record whose members all hold strings. -/
def RecordLayout.recordChars (l : RecordLayout) (members : List (String × String)) : List Char :=
  '\x7b' :: ([','].intercalate (members.map l.memberChars) ++ (l.beforeEnd ++ ['\x7d']))

def RecordLayout.entryChars (l : RecordLayout) (e : TypeEntry) : List Char := l.recordChars e.members

private theorem toList_jsonString (text : String) : (jsonString text).toList = jsonStringChars text.toList := by
  simp [jsonString]

theorem toList_compactJson (e : TypeEntry) :
    e.compactJson.toList = RecordLayout.compact.entryChars e := by
  have member : RecordLayout.compact.memberChars =
      fun m => jsonStringChars m.1.toList ++ ':' :: jsonStringChars m.2.toList := by
    funext m
    rfl
  unfold TypeEntry.compactJson RecordLayout.entryChars RecordLayout.recordChars
  rw [member]
  simp [String.toList_intercalate, toList_jsonString, RecordLayout.compact, Function.comp_def]

theorem toList_indentedJson (e : TypeEntry) :
    e.indentedJson.toList = [' ', ' ', ' ', ' '] ++ RecordLayout.indented.entryChars e := by
  unfold TypeEntry.indentedJson RecordLayout.entryChars RecordLayout.recordChars TypeEntry.members
  cases e.cType <;>
    simp [RecordLayout.memberChars, toList_jsonString, RecordLayout.indented]

theorem jsonStringChars_append (text rest : List Char) :
    jsonStringChars text ++ rest = '"' :: (text.flatMap escapedJson ++ '"' :: rest) := by
  simp [jsonStringChars]

private theorem skipBlanks_jsonStringChars {gap : List Char} (blank : gap.all isBlank = true)
    (text rest : List Char) :
    skipBlanks (gap ++ (jsonStringChars text ++ rest)) =
      '"' :: (text.flatMap escapedJson ++ '"' :: rest) := by
  rw [skipBlanks_append blank, jsonStringChars_append, skipBlanks_cons (by decide)]

private theorem scanText_written (gap : List Char) (blank : gap.all isBlank = true) (text : String)
    (rest : List Char) :
    scanText (gap ++ (jsonStringChars text.toList ++ rest)) = .ok (text, rest) := by
  unfold scanText
  rw [skipBlanks_jsonStringChars blank]
  simp [scanString_flatMap_escapedJson, Except.map]

private theorem scanSpelling_written {gap : List Char} (blank : gap.all isBlank = true) (text : String)
    (rest : List Char) :
    scanSpelling (gap ++ (jsonStringChars text.toList ++ rest)) = .ok (some text, rest) := by
  have inner := scanText_written [] rfl text rest
  rw [List.nil_append, jsonStringChars_append] at inner
  unfold scanSpelling
  rw [skipBlanks_jsonStringChars blank]
  simp [inner, Except.map]

private theorem scanSignedness_written {gap : List Char} (blank : gap.all isBlank = true)
    (signedness : Signedness) (rest : List Char) :
    scanSignedness (gap ++ (jsonStringChars signedness.name.toList ++ rest)) = .ok (signedness, rest) := by
  unfold scanSignedness
  rw [skipBlanks_jsonStringChars blank]
  simp [scanSignednessName, scanString_flatMap_escapedJson, Signedness.ofName?_name, bind, Except.bind,
    pure, Except.pure]

private theorem scanKey_written (key : String) (rest : List Char) :
    scanKey (key.toList.flatMap escapedJson ++ '"' :: rest) = .ok (some key, rest) := by
  simp [scanKey, scanString_flatMap_escapedJson, Except.map]

theorem nextKey_first {gap : List Char} (blank : gap.all isBlank = true) (key : String)
    (rest : List Char) :
    nextKey true (gap ++ (jsonStringChars key.toList ++ rest)) = .ok (some key, rest) := by
  unfold nextKey
  rw [skipBlanks_jsonStringChars blank]
  simp [scanKey_written]

private theorem nextKey_later {gap : List Char} (blank : gap.all isBlank = true) (key : String)
    (rest : List Char) :
    nextKey false (',' :: (gap ++ (jsonStringChars key.toList ++ rest))) = .ok (some key, rest) := by
  unfold nextKey
  rw [skipBlanks_cons (by decide)]
  simp [skipBlanks_jsonStringChars blank, scanKey_written]

theorem nextKey_end (gap : List Char) (blank : gap.all isBlank = true) (first : Bool)
    (rest : List Char) : nextKey first (gap ++ '\x7d' :: rest) = .ok (none, rest) := by
  unfold nextKey
  rw [skipBlanks_append blank, skipBlanks_cons (by decide)]
  simp

/-- Reading a record turn by turn: a key, its member, and what follows. -/
theorem RecordShape.scan_eq {σ : Type} (shape : RecordShape σ) (first : Bool) (given : σ) (s : List Char) :
    shape.scan first given s = within .unknown (nextKey first s) >>= fun
      | (none, r) => .ok (given, r)
      | (some key, r) => shape.member given key r >>= fun (given', r') => shape.scan false given' r' := by
  rw [RecordShape.scan]
  split
  · rename_i failed
    rw [failed]
    rfl
  · rename_i ended
    rw [ended]
    rfl
  · rename_i found
    rw [found]
    change _ = shape.member given _ _ >>= _
    split
    · rename_i failed
      rw [failed]
      rfl
    · rename_i read
      rw [read]
      rfl

theorem RecordShape.scan_of_key {σ : Type} {shape : RecordShape σ} {first : Bool} {given given' : σ}
    {key : String} {s r r' : List Char} (hkey : nextKey first s = .ok (some key, r))
    (hmember : shape.member given key r = .ok (given', r')) :
    shape.scan first given s = shape.scan false given' r' := by
  rw [RecordShape.scan_eq, within_eq_ok_iff.2 hkey]
  change shape.member given key r >>= _ = _
  rw [hmember]
  rfl

theorem RecordShape.scan_of_end {σ : Type} {shape : RecordShape σ} {first : Bool} {given : σ}
    {s r : List Char} (hkey : nextKey first s = .ok (none, r)) :
    shape.scan first given s = .ok (given, r) := by
  rw [RecordShape.scan_eq, within_eq_ok_iff.2 hkey]
  rfl

private theorem scanColon_cons (s : List Char) : scanColon (':' :: s) = .ok s := by
  unfold scanColon
  rw [skipBlanks_cons (by decide)]
  simp

theorem scanField_new {α : Type} (key : String) {scan : List Char → Except Fault (α × List Char)}
    {s r : List Char} {value : α} (h : scan s = .ok (value, r)) :
    scanField none key scan (':' :: s) = .ok (value, r) := by
  have hwithin : within (.key key) (scan s) = .ok (value, r) := within_eq_ok_iff.2 h
  simp [scanField, scanColon_cons, hwithin, bind, Except.bind]

variable {l : RecordLayout} {rest : List Char}

private theorem scanMember_tag {given : EntryFields} (new : given.tag = none) (tag : String) :
    given.scanMember "tag" (':' :: (l.beforeValue ++ (jsonStringChars tag.toList ++ rest))) =
      .ok ({ given with tag := some tag }, rest) := by
  have field := scanField_new "tag" (scanText_written _ l.beforeValue_blank tag rest)
  simp [EntryFields.scanMember, new, field, Except.map]

private theorem scanMember_signedness {given : EntryFields} (new : given.signedness = none)
    (signedness : Signedness) :
    given.scanMember "signedness"
        (':' :: (l.beforeValue ++ (jsonStringChars signedness.name.toList ++ rest))) =
      .ok ({ given with signedness := some signedness }, rest) := by
  have field := scanField_new "signedness"
    (scanSignedness_written l.beforeValue_blank signedness rest)
  simp [EntryFields.scanMember, new, field, Except.map]

private theorem scanMember_cType {given : EntryFields} (new : given.cType = none) (cType : String) :
    given.scanMember "c_type" (':' :: (l.beforeValue ++ (jsonStringChars cType.toList ++ rest))) =
      .ok ({ given with cType := some (some cType) }, rest) := by
  have field := scanField_new "c_type" (scanSpelling_written l.beforeValue_blank cType rest)
  simp [EntryFields.scanMember, new, field, Except.map]

/-- The fields that the members of a written entry give. -/
theorem scan_entryShape_written (l : RecordLayout) (e : TypeEntry) (rest : List Char) :
    entryShape.scan true .initial
        ([','].intercalate (e.members.map l.memberChars) ++ (l.beforeEnd ++ '\x7d' :: rest)) =
      .ok (⟨some e.tag, some e.signedness, e.cType.map some⟩, rest) := by
  obtain ⟨tag, signedness, cType⟩ := e
  cases cType with
  | none =>
    simp only [TypeEntry.members, List.append_nil, List.map_cons, List.map_nil,
      List.intercalate_cons_cons, List.intercalate_singleton, RecordLayout.memberChars, List.append_assoc,
      List.cons_append, List.nil_append, Option.map_none]
    rw [RecordShape.scan_of_key (nextKey_first l.beforeKey_blank "tag" _) (scanMember_tag rfl tag),
      RecordShape.scan_of_key (nextKey_later l.beforeKey_blank "signedness" _)
        (scanMember_signedness rfl signedness),
      RecordShape.scan_of_end (nextKey_end _ l.beforeEnd_blank false rest)]
    rfl
  | some cType =>
    simp only [TypeEntry.members, List.map_cons, List.map_nil,
      List.intercalate_cons_cons, List.intercalate_singleton, RecordLayout.memberChars, List.append_assoc,
      List.cons_append, List.nil_append, Option.map_some]
    rw [RecordShape.scan_of_key (nextKey_first l.beforeKey_blank "tag" _) (scanMember_tag rfl tag),
      RecordShape.scan_of_key (nextKey_later l.beforeKey_blank "signedness" _)
        (scanMember_signedness rfl signedness),
      RecordShape.scan_of_key (nextKey_later l.beforeKey_blank "c_type" _) (scanMember_cType rfl cType),
      RecordShape.scan_of_end (nextKey_end _ l.beforeEnd_blank false rest)]

private theorem EntryFields.entry_given (e : TypeEntry) (rest : List Char) :
    (⟨some e.tag, some e.signedness, e.cType.map some⟩ : EntryFields).entry rest = .ok e := by
  obtain ⟨tag, signedness, cType⟩ := e
  cases cType <;> rfl

/-- A written entry is read back from behind any blanks, whatever follows it. -/
theorem scanEntry_written (gap : List Char) (blank : gap.all isBlank = true)
    (l : RecordLayout) (e : TypeEntry) (rest : List Char) :
    scanEntry (gap ++ (l.entryChars e ++ rest)) = .ok (e, rest) := by
  have fields := scan_entryShape_written l e rest
  unfold scanEntry RecordLayout.entryChars RecordLayout.recordChars
  rw [skipBlanks_append blank, List.cons_append, skipBlanks_cons (by decide)]
  simp only [Char.reduceEq, ↓reduceIte, List.append_assoc, List.cons_append, List.nil_append,
    scanEntryRecord, fields, EntryFields.entry_given, bind, Except.bind, pure, Except.pure]

/-- The text of a list behind its opening bracket, with blanks before each entry and before the end. -/
def RecordLayout.listChars (l : RecordLayout) (gap endGap : List Char) (entries : List TypeEntry) :
    List Char :=
  [','].intercalate (entries.map fun e => gap ++ l.entryChars e) ++ (endGap ++ [']'])

theorem intercalate_cons (sep x : List Char) (xs : List (List Char)) :
    sep.intercalate (x :: xs) = x ++ xs.flatMap (sep ++ ·) := by
  induction xs generalizing x with
  | nil => simp
  | cons y ys ih => rw [List.intercalate_cons_cons, ih y]; simp

private theorem RecordLayout.entryChars_append (l : RecordLayout) (e : TypeEntry) (rest : List Char) :
    ∃ inner, l.entryChars e ++ rest = '\x7b' :: inner :=
  ⟨_, rfl⟩

private theorem nextElement_first {gap : List Char} (blank : gap.all isBlank = true) (l : RecordLayout)
    (e : TypeEntry) (rest : List Char) :
    nextElement true (gap ++ (l.entryChars e ++ rest)) = .ok (true, l.entryChars e ++ rest) := by
  obtain ⟨inner, opened⟩ := l.entryChars_append e rest
  unfold nextElement
  rw [skipBlanks_append blank, opened, skipBlanks_cons (by decide)]
  simp

private theorem nextElement_later {gap : List Char} (blank : gap.all isBlank = true) (l : RecordLayout)
    (e : TypeEntry) (rest : List Char) :
    nextElement false (',' :: (gap ++ (l.entryChars e ++ rest))) = .ok (true, l.entryChars e ++ rest) := by
  obtain ⟨inner, opened⟩ := l.entryChars_append e rest
  unfold nextElement
  rw [skipBlanks_cons (by decide)]
  simp only [Char.reduceEq, ↓reduceIte, Bool.false_eq_true]
  rw [skipBlanks_append blank, opened, skipBlanks_cons (by decide)]
  simp

private theorem nextElement_end {gap : List Char} (blank : gap.all isBlank = true) (first : Bool)
    (rest : List Char) : nextElement first (gap ++ ']' :: rest) = .ok (false, rest) := by
  unfold nextElement
  rw [skipBlanks_append blank, skipBlanks_cons (by decide)]
  simp

/-- Reading a list of entries turn by turn. -/
theorem scanEntriesFrom_eq (index : Nat) (s : List Char) :
    scanEntriesFrom index s = nextElement (index == 0) s >>= fun
      | (false, r) => .ok ([], r)
      | (true, r) => within (.index index) (scanEntry r) >>= fun (entry, t) =>
        (scanEntriesFrom (index + 1) t).map fun (entries, rest) => (entry :: entries, rest) := by
  rw [scanEntriesFrom]
  split
  · rename_i failed
    rw [failed]
    rfl
  · rename_i ended
    rw [ended]
    rfl
  · rename_i found
    rw [found]
    change _ = within (.index index) (scanEntry _) >>= _
    split
    · rename_i failed
      rw [failed]
      rfl
    · rename_i read
      rw [read]
      rfl

theorem scanEntriesFrom_of_end {index : Nat} {s r : List Char}
    (h : nextElement (index == 0) s = .ok (false, r)) : scanEntriesFrom index s = .ok ([], r) := by
  rw [scanEntriesFrom_eq, h]
  rfl

theorem scanEntriesFrom_of_entry (index : Nat) {s r t : List Char} {e : TypeEntry}
    (h : nextElement (index == 0) s = .ok (true, r)) (hentry : scanEntry r = .ok (e, t)) :
    scanEntriesFrom index s =
      (scanEntriesFrom (index + 1) t).map fun (entries, rest) => (e :: entries, rest) := by
  rw [scanEntriesFrom_eq, h]
  change within (.index index) (scanEntry r) >>= _ = _
  rw [within_eq_ok_iff.2 hentry]
  rfl

private theorem scanEntriesFrom_later {gap endGap : List Char} (blank : gap.all isBlank = true)
    (endBlank : endGap.all isBlank = true) (l : RecordLayout) (entries : List TypeEntry)
    (rest : List Char) (index : Nat) :
    scanEntriesFrom (index + 1)
        ((entries.map fun e => gap ++ l.entryChars e).flatMap (',' :: ·) ++ (endGap ++ ']' :: rest)) =
      .ok (entries, rest) := by
  induction entries generalizing index with
  | nil => exact scanEntriesFrom_of_end (nextElement_end endBlank _ rest)
  | cons e entries ih =>
    simp only [List.map_cons, List.flatMap_cons, List.append_assoc, List.cons_append]
    rw [scanEntriesFrom_of_entry (index + 1) (nextElement_later blank l e _)
      (scanEntry_written [] rfl l e _), ih]
    rfl

/-- A written list of entries is read back from behind its bracket, empty or not. -/
theorem scanEntriesFrom_written {gap endGap : List Char} (blank : gap.all isBlank = true)
    (endBlank : endGap.all isBlank = true) (l : RecordLayout) (entries : List TypeEntry)
    (rest : List Char) :
    scanEntriesFrom 0 (l.listChars gap endGap entries ++ rest) = .ok (entries, rest) := by
  unfold RecordLayout.listChars
  cases entries with
  | nil =>
    simp only [List.map_nil, List.intercalate_nil, List.nil_append, List.append_assoc, List.cons_append]
    exact scanEntriesFrom_of_end (nextElement_end endBlank _ rest)
  | cons e entries =>
    simp only [List.map_cons, intercalate_cons, List.append_assoc, List.cons_append,
      List.nil_append]
    rw [scanEntriesFrom_of_entry 0 (nextElement_first blank l e _)
      (scanEntry_written [] rfl l e _), scanEntriesFrom_later blank endBlank]
    rfl

end CollectionGlue
