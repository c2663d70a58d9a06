import CollectionGlue.Proofs.FaultPaths
import CollectionGlue.TableLoading

/-! # Where a table is faulty inside one of its entries

An entry may be faulty in a field, the value of which is of the wrong kind, or as a whole, when a field
stands twice or is missing. The path of the fault leads to the place, whatever stands before it and whatever
the text goes on with.
-/
namespace CollectionGlue

inductive Field | tag | signedness | cType

def Field.key : Field → String
  | .tag => "tag"
  | .signedness => "signedness"
  | .cType => "c_type"

/-- The value can be taken for the field. -/
def Field.Fits : Field → JsonTree → Prop
  | .tag, tree => tree.text?.isSome
  | .signedness, tree => tree.signedness?.isSome
  | .cType, tree => tree.spelling?.isSome

/-- A tag that is no string; a signedness that is neither a record nor one of the three names; a spelling
that is neither a string nor null. -/
def Field.WrongKind : Field → JsonTree → Prop
  | .tag, tree => ∀ units, tree ≠ .string units
  | .signedness, tree => (∀ members, tree ≠ .record members) ∧ tree.signedness? = none
  | .cType, tree => tree ≠ .null ∧ ∀ units, tree ≠ .string units

def keysOf (members : List (String × JsonTree)) : List String := members.map (·.1)

/-- Each field stands at most once among the members, with a value that it can take. -/
structure WellShaped (members : List (String × JsonTree)) : Prop where
  once : ∀ f : Field, (keysOf members).count f.key ≤ 1
  fits : ∀ (f : Field) (tree : JsonTree), (f.key, tree) ∈ members → f.Fits tree

/-- The text goes on with `r` behind the bracket of the list of entries of a table, before which only members
with other keys stand. -/
inductive InsideEntries (source : List Char) : List Char → Prop
  | intro {others : List (String × JsonTree)} {s t u v r : List Char} (brace : Gap source ('\x7b' :: s))
      (before : OpenMembers true others s t) (other : "types" ∉ keysOf others)
      (name : KeyAt others.isEmpty "types" t u) (colon : Gap u (':' :: v)) (bracket : Gap v ('[' :: r)) :
      InsideEntries source r

/-- The text goes on with `r` behind the brace of an entry, before which `index` entries stand. -/
inductive InsideEntry (source : List Char) : Nat → List Char → Prop
  | intro {trees : List JsonTree} {entries : List TypeEntry} {s t u r : List Char}
      (inside : InsideEntries source s) (before : OpenElements true trees s t)
      (shaped : trees.mapM JsonTree.entryValue? = some entries) (joint : Joint trees.isEmpty t u)
      (brace : Gap u ('\x7b' :: r)) : InsideEntry source trees.length r

/-- What is wrong behind the members of an entry, and how the path of the fault goes on behind the entry. -/
inductive Flaw (members : List (String × JsonTree)) (s : List Char) : String → Prop
  | wrongKind {f : Field} {tree : JsonTree} {t u r : List Char} (new : f.key ∉ keysOf members)
      (name : KeyAt members.isEmpty f.key s t) (colon : Gap t (':' :: u)) (value : Spells (.spaced tree) u r)
      (wrong : f.WrongKind tree) : Flaw members s ("." ++ f.key)
  | repeated {f : Field} {r : List Char} (given : f.key ∈ keysOf members)
      (name : KeyAt members.isEmpty f.key s r) : Flaw members s ""
  | incomplete {r : List Char} (absent : "tag" ∉ keysOf members ∨ "signedness" ∉ keysOf members)
      (closed : Gap s ('\x7d' :: r)) : Flaw members s ""

variable {members : List (String × JsonTree)} {s t r : List Char} {given : EntryFields} {path : List Step}
  {tree : JsonTree}

theorem Flaw.numeralStops {ending : String} (h : Flaw members s ending) (nonempty : members.isEmpty = false) :
    NumeralStops s := by
  cases h with
  | wrongKind _ name => exact (nonempty ▸ name).numeralStops
  | repeated _ name => exact (nonempty ▸ name).numeralStops
  | incomplete _ closed => exact closed.numeralStops (numeralStops_cons (.inr (.inr rfl)) _)

def EntryFields.has (given : EntryFields) : Field → Bool
  | .tag => given.tag.isSome
  | .signedness => given.signedness.isSome
  | .cType => given.cType.isSome

private theorem length_valuesOf (key : String) (members : List (String × JsonTree)) :
    (valuesOf key members).length = (keysOf members).count key := by
  rw [valuesOf, keysOf, List.length_map, List.count_eq_countP, List.countP_map, List.countP_eq_length_filter]
  rfl

theorem mem_valuesOf_iff {key : String} : tree ∈ valuesOf key members ↔ (key, tree) ∈ members := by
  simp [valuesOf]

private theorem valuesOf_eq_nil {key : String} (h : key ∉ keysOf members) : valuesOf key members = [] := by
  rw [← List.length_eq_zero_iff, length_valuesOf, List.count_eq_zero]
  exact h

/-- A field that stands at most once is given exactly if it stands there. -/
theorem exists_fieldAfter? {α : Type} {key : String} {decode : JsonTree → Option α}
    (once : (keysOf members).count key ≤ 1)
    (fits : ∀ tree, (key, tree) ∈ members → (decode tree).isSome) :
    ∃ found, fieldAfter? key decode none members = some found ∧
      (found.isSome ↔ key ∈ keysOf members) := by
  rw [← length_valuesOf] at once
  have standing : key ∈ keysOf members ↔ 0 < (valuesOf key members).length := by
    rw [length_valuesOf, List.count_pos_iff]
  unfold fieldAfter?
  match values : valuesOf key members with
  | [] =>
    rw [standing, values]
    exact ⟨none, rfl, by simp⟩
  | [tree] =>
    obtain ⟨a, decoded⟩ := Option.isSome_iff_exists.1 (fits tree (mem_valuesOf_iff.1 (by simp [values])))
    rw [standing, values]
    exact ⟨some a, by simp [newField?, decoded], by simp⟩
  | _ :: _ :: _ =>
    rw [values] at once
    simp at once

theorem WellShaped.after (h : WellShaped members) :
    ∃ given, EntryFields.initial.After members given ∧
      ∀ f : Field, given.has f = true ↔ f.key ∈ keysOf members := by
  obtain ⟨tag, tagAfter, tagHas⟩ := exists_fieldAfter? (h.once .tag) (h.fits .tag)
  obtain ⟨signedness, signednessAfter, signednessHas⟩ :=
    exists_fieldAfter? (h.once .signedness) (h.fits .signedness)
  obtain ⟨cType, cTypeAfter, cTypeHas⟩ := exists_fieldAfter? (h.once .cType) (h.fits .cType)
  refine ⟨⟨tag, signedness, cType⟩, ⟨tagAfter, signednessAfter, cTypeAfter⟩, fun f => ?_⟩
  cases f with
  | tag => exact tagHas
  | signedness => exact signednessHas
  | cType => exact cTypeHas

private theorem failsAt_scanText_of_wrongKind (value : Spells (.spaced tree) s r) (wrong : Field.tag.WrongKind tree) :
    FailsAt [] (scanText s) := by
  obtain ⟨c, t, found, bare⟩ := value.opens
  have quote : c ≠ '"' := by
    rintro rfl
    obtain ⟨units, same, -⟩ := bare.of_quote
    exact wrong units same
  unfold scanText
  rw [found]
  dsimp only
  rw [if_neg quote]
  exact ⟨_, rfl, path_mismatch .string _⟩

private theorem failsAt_scanSpelling_of_wrongKind (value : Spells (.spaced tree) s r)
    (wrong : Field.cType.WrongKind tree) : FailsAt [] (scanSpelling s) := by
  have text := failsAt_scanText_of_wrongKind (spells_spaced_skipBlanks.2 value) wrong.2
  obtain ⟨c, t, found, bare⟩ := value.opens
  rw [found] at text
  have letter : c ≠ 'n' := by
    rintro rfl
    exact wrong.1 bare.of_null.1
  unfold scanSpelling
  rw [found]
  dsimp only
  rw [if_neg letter]
  exact text.map _

private theorem failsAt_scanSignedness_of_wrongKind (value : Spells (.spaced tree) s r)
    (wrong : Field.signedness.WrongKind tree) : FailsAt [] (scanSignedness s) := by
  obtain ⟨c, t, found, bare⟩ := value.opens
  have brace : c ≠ '\x7b' := by
    rintro rfl
    obtain ⟨members, same, -⟩ := bare.of_brace
    exact wrong.1 members same
  unfold scanSignedness
  rw [found]
  dsimp only
  split_ifs with quote
  · subst quote
    obtain ⟨units, rfl, chars⟩ := bare.of_quote
    -- Were a name read here, the string would be that name, since a text has one reading as a string.
    cases scanned : scanSignednessName t with
    | error fault => exact ⟨fault, rfl, failsHere_scanSignednessName t fault scanned⟩
    | ok found =>
      obtain ⟨units', chars', named⟩ := scanSignednessName_eq_ok_iff.1 scanned
      obtain ⟨rfl, -⟩ := chars.unique chars'
      exact absurd named (by rw [show (unitsText? units).bind signednessNamed? = none from wrong.2]; nofun)
  · exact ⟨_, rfl, rfl⟩

/-- A field that stands a second time is a fault of the record. -/
theorem failsAt_scanMember_of_has {f : Field} (has : given.has f = true) (s : List Char) :
    FailsAt [] (given.scanMember f.key s) := by
  cases f with
  | tag => exact (failsAt_scanField_given has _ s).map _
  | signedness => exact (failsAt_scanField_given has _ s).map _
  | cType => exact (failsAt_scanField_given has _ s).map _

/-- A value of the wrong kind is a fault of its field. -/
theorem failsAt_scanMember_of_wrongKind {f : Field} (new : given.has f = false) (colon : Gap s (':' :: t))
    (value : Spells (.spaced tree) t r) (wrong : f.WrongKind tree) :
    FailsAt [.key f.key] (given.scanMember f.key s) := by
  cases f with
  | tag => exact (failsAt_scanField (failsAt_scanText_of_wrongKind value wrong) new colon _).map _
  | signedness => exact (failsAt_scanField (failsAt_scanSignedness_of_wrongKind value wrong) new colon _).map _
  | cType => exact (failsAt_scanField (failsAt_scanSpelling_of_wrongKind value wrong) new colon _).map _

private theorem failsAt_entry (missing : given.has .tag = false ∨ given.has .signedness = false) (s : List Char) :
    FailsAt [] (given.entry s) := by
  obtain ⟨tag, signedness, cType⟩ := given
  cases tag with
  | none => exact ⟨_, rfl, rfl⟩
  | some tag =>
    cases signedness with
    | none => exact ⟨_, rfl, rfl⟩
    | some signedness => rcases missing with ⟨⟨⟩⟩ | ⟨⟨⟩⟩

/-- An entry with a flaw behind its first members fails there. -/
theorem Flaw.failsAt {ending : String} (flaw : Flaw members t ending) (spelled : OpenMembers true members s t)
    (shaped : WellShaped members) :
    ∃ path, FailsAt path (scanEntryRecord s) ∧ String.join (path.map laterStepText) = ending := by
  obtain ⟨given, after, has⟩ := shaped.after
  have all := absorbAll_absorb_eq_some_iff.2 ⟨members, namedMembers?_encodedMembers members, after⟩
  have here := reads_entryShape.scan_open spelled all flaw.numeralStops
  -- The reader stands behind the members now, with a field exactly for each of their keys.
  unfold scanEntryRecord
  rw [here, Bool.true_and]
  cases flaw with
  | @wrongKind f tree u v r new name colon value wrong =>
    have isNew : given.has f = false := Bool.eq_false_iff.2 fun there => new ((has f).1 there)
    have member := failsAt_scanMember_of_wrongKind isNew colon value wrong
    exact ⟨[.key f.key], (failsAt_scan member name).bind _, by simp [laterStepText, Step.text]⟩
  | @repeated f r there name =>
    have member := failsAt_scanMember_of_has ((has f).2 there) r
    exact ⟨[], (failsAt_scan member name).bind _, rfl⟩
  | @incomplete r absent closed =>
    have ended : entryShape.scan members.isEmpty given t = .ok (given, r) :=
      RecordShape.scan_of_end (nextKey_eq_ok_none_iff.2 closed)
    have missing : given.has .tag = false ∨ given.has .signedness = false :=
      absent.imp (fun new => Bool.eq_false_iff.2 fun there => new ((has .tag).1 there))
        fun new => Bool.eq_false_iff.2 fun there => new ((has .signedness).1 there)
    rw [ended]
    exact ⟨[], (failsAt_entry missing r).bind _, rfl⟩

/-- A fault in the list of entries is a fault of the table under the key of the list. -/
theorem InsideEntries.failsAt {source : List Char} (inside : InsideEntries source r)
    (h : FailsAt path (scanEntriesFrom 0 r)) : FailsAt (.key "types" :: path) (scanTable source) := by
  obtain @⟨others, s, t, u, v, r, brace, before, other, name, colon, bracket⟩ := inside
  have notGiven : fieldAfter? "types" JsonTree.entries? none others = some none := by
    rw [fieldAfter?, valuesOf_eq_nil other]
  have all := absorbAll_absorbTypes_eq_some_iff.2 ⟨others, namedMembers?_encodedMembers others, notGiven⟩
  have here := reads_tableShape.scan_open before all fun (later : others.isEmpty = false) =>
    (later ▸ name).numeralStops
  have member : FailsAt (.key "types" :: path) (tableShape.member none "types" u) :=
    (failsAt_scanField (failsAt_scanEntries bracket h) rfl colon "types").map _
  refine failsAt_scanTable brace ?_
  rw [here, Bool.true_and]
  exact failsAt_scan member name

/-- A fault in an entry is a fault of the table under the number of entries before it. -/
theorem InsideEntry.failsAt {source : List Char} {index : Nat} (inside : InsideEntry source index r)
    (h : FailsAt path (scanEntryRecord r)) :
    FailsAt (.key "types" :: .index index :: path) (scanTable source) := by
  obtain @⟨trees, entries, s, t, u, r, inside, before, shaped, joint, brace⟩ := inside
  have first : trees.isEmpty = (0 + trees.length == 0) := by
    cases trees <;> simp
  have entry := failsAt_scanEntriesFrom (first ▸ joint) brace h
  refine inside.failsAt ?_
  have behind : OpenElements (0 == 0) trees s t := before
  rw [scanEntriesFrom_open behind shaped]
  rw [Nat.zero_add] at entry ⊢
  exact entry.map _

private theorem malformed_of_failsAt {source : String} (h : FailsAt path (scanTable source.toList)) :
    ∃ fault, TypeTable.ofJson source = .error (.malformed fault) ∧ fault.path = path := by
  obtain ⟨fault, failed, same⟩ := h
  refine ⟨fault.located source.toList, ?_, same⟩
  unfold TypeTable.ofJson readTable readDocument
  rw [failed]

private theorem pathText_entry (index : Nat) (path : List Step) :
    pathText (.key "types" :: .index index :: path) =
      "types[" ++ toString index ++ "]" ++ String.join (path.map laterStepText) := by
  have opened : "types" ++ "[" = "types[" := rfl
  simp only [pathText, Step.text, laterStepText, List.map_cons, String.join_cons, ← String.append_assoc,
    opened]

/-- The fault of a table with a flaw in an entry leads to the entry by the number of entries before it, and to
the field that has a value of the wrong kind. Nothing is asked of the text behind the flaw. -/
theorem faulty_entry_path {source : String} {index : Nat} {ending : String}
    (inside : InsideEntry source.toList index s) (spelled : OpenMembers true members s t)
    (shaped : WellShaped members) (flaw : Flaw members t ending) :
    ∃ fault, TypeTable.ofJson source = .error (.malformed fault) ∧
      fault.pathText = "types[" ++ toString index ++ "]" ++ ending := by
  obtain ⟨path, failed, text⟩ := flaw.failsAt spelled shaped
  obtain ⟨fault, malformed, same⟩ := malformed_of_failsAt (inside.failsAt failed)
  refine ⟨fault, malformed, ?_⟩
  rw [DocumentFault.pathText, same, pathText_entry, text]

/-- A table text up to a place inside its second entry. -/
def openEntryText : String :=
  "\x7b\"x\":null,\"types\":[\x7b\"tag\":\"int\",\"signedness\":\"signed\"\x7d,\x7b\"tag\":\"long\""

def openEntryMembers : List (String × JsonTree) := [("tag", .string (unitsOf "long"))]

private theorem insideEntry_openEntryText (more : String) :
    InsideEntry (openEntryText ++ more).toList 1 ("\"tag\":\"long\"".toList ++ more.toList) := by
  have before (r : List Char) : OpenMembers true [("x", .null)] ("\"x\":null".toList ++ r) r :=
    .member (keyAt_first "x" _) (.refl _) (.spaced (.refl _) (.null r)) (.stop false r)
  obtain ⟨tree, value, decoded⟩ := (reads_scanEntry _ _ _).1
    (scanEntry_written [] rfl .compact ⟨"int", .signed, none⟩
      (",\x7b\"tag\":\"long\"".toList ++ more.toList))
  rw [String.toList_append]
  have inside : InsideEntries (openEntryText.toList ++ more.toList)
      (RecordLayout.compact.entryChars ⟨"int", .signed, none⟩ ++
        (",\x7b\"tag\":\"long\"".toList ++ more.toList)) :=
    .intro (.refl _) (before _) (by decide) (keyAt_later "types" _) (.refl _) (.refl _)
  exact .intro inside (.element rfl value (.stop false _))
    (mapM_cons_eq_some_iff.2 ⟨_, [], decoded, rfl, rfl⟩) (.refl _) (.refl _)

private theorem openMembers_openEntryText (more : List Char) :
    OpenMembers true openEntryMembers ("\"tag\":\"long\"".toList ++ more) more :=
  .member (keyAt_first "tag" _) (.refl _) (spells_written "long" more) (.stop false more)

private theorem wellShaped_openEntryMembers : WellShaped openEntryMembers where
  once f := by cases f <;> decide
  fits f tree there := by
    obtain ⟨same, rfl⟩ := Prod.mk.inj (List.mem_singleton.1 there)
    cases f with
    | tag => exact Option.isSome_iff_exists.2 ⟨"long", unitsText?_eq_some_iff.2 rfl⟩
    | signedness => exact absurd same (by decide)
    | cType => exact absurd same (by decide)

/-- A signedness that is a numeral, a second tag, and no signedness at all. -/
theorem openEntryText_fault_paths :
    (Flaw openEntryMembers ",\"signedness\":5".toList ".signedness" ∧
      ∃ fault, TypeTable.ofJson (openEntryText ++ ",\"signedness\":5") = .error (.malformed fault) ∧
        fault.pathText = "types[1].signedness") ∧
    (Flaw openEntryMembers ",\"tag\"".toList "" ∧
      ∃ fault, TypeTable.ofJson (openEntryText ++ ",\"tag\"") = .error (.malformed fault) ∧
        fault.pathText = "types[1]") ∧
    Flaw openEntryMembers "\x7d".toList "" ∧
      ∃ fault, TypeTable.ofJson (openEntryText ++ "\x7d") = .error (.malformed fault) ∧
        fault.pathText = "types[1]" := by
  have numeral : IsNumeral ['5'] :=
    ⟨[], ['5'], [], [], .inl rfl, .inr ⟨⟨nofun, rfl⟩, nofun⟩, .inl rfl, .inl rfl, rfl⟩
  have wrongKind : Flaw openEntryMembers ",\"signedness\":5".toList ".signedness" :=
    .wrongKind (f := .signedness) (by decide) (keyAt_later "signedness" _) (.refl _)
      (.spaced (.refl _) (.numeral numeral [])) ⟨nofun, rfl⟩
  have repeated : Flaw openEntryMembers ",\"tag\"".toList "" :=
    .repeated (f := .tag) (by decide) (keyAt_later "tag" [])
  have incomplete : Flaw openEntryMembers "\x7d".toList "" := .incomplete (.inr (by decide)) (.refl _)
  exact ⟨⟨wrongKind, faulty_entry_path (insideEntry_openEntryText _) (openMembers_openEntryText _)
      wellShaped_openEntryMembers wrongKind⟩,
    ⟨repeated, faulty_entry_path (insideEntry_openEntryText _) (openMembers_openEntryText _)
      wellShaped_openEntryMembers repeated⟩,
    incomplete, faulty_entry_path (insideEntry_openEntryText _) (openMembers_openEntryText _)
      wellShaped_openEntryMembers incomplete⟩

end CollectionGlue
