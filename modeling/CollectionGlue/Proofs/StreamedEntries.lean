import CollectionGlue.Proofs.StreamedParts

/-! # A type entry read in one pass is the entry decoded from its tree

An entry as a record is read by keeping the fields that were given; they are the ones that the decoder looks
up among all members.
-/
namespace CollectionGlue

variable {α σ : Type} {s t r : List Char} {scan : List Char → Except Fault (α × List Char)}
  {decode : JsonTree → Option α}

private theorem reads_scanText : Reads scanText JsonTree.text? := by
  intro s text r
  unfold scanText
  constructor
  · intro h
    split at h
    · cases h
    rename_i c t found
    split at h
    · rename_i quote
      obtain ⟨units, chars, decoded⟩ := scannedText_eq_ok_iff.1 h
      exact ⟨.string units, .spaced (gap_of_skipBlanks_eq (quote ▸ found)) (.string chars), decoded⟩
    · cases h
  · rintro ⟨tree, spelled, decoded⟩
    cases tree with
    | string units =>
      obtain ⟨t, opened, chars⟩ := spells_string_iff.1 (spells_spaced_iff.1 spelled)
      rw [opened]
      exact scannedText_eq_ok_iff.2 ⟨units, chars, decoded⟩
    | _ => cases decoded

theorem scanNull_eq_ok_iff : scanNull s = .ok r ↔ Spells (.spaced .null) s r := by
  rw [spells_spaced_iff, spells_null_iff]
  unfold scanNull
  constructor
  · intro h
    split at h
    · cases h
    rename_i c t found
    split at h
    · rename_i letter
      rw [found, letter, scanLiteral_eq_ok_iff.1 h]
      rfl
    · cases h
  · intro whole
    rw [whole]
    exact scanLiteral_eq_ok_iff.2 rfl

private theorem JsonTree.spelling?_of_text? {tree : JsonTree} {text : String} (h : tree.text? = some text) :
    tree.spelling? = some (some text) := by
  cases tree with
  | string => exact congrArg (Option.map some) h
  | _ => cases h

private theorem reads_scanSpelling : Reads scanSpelling JsonTree.spelling? := by
  intro s cType r
  unfold scanSpelling
  constructor
  · intro h
    split at h
    · cases h
    rename_i c t found
    split at h
    · rename_i letter
      obtain ⟨r', scanned, same⟩ := map_eq_ok_iff.1 h
      cases same
      refine ⟨.null, spells_spaced_iff.2 (spells_null_iff.2 ?_), rfl⟩
      rw [found, letter, scanLiteral_eq_ok_iff.1 scanned]
      rfl
    · obtain ⟨⟨text, r'⟩, scanned, same⟩ := map_eq_ok_iff.1 h
      cases same
      obtain ⟨tree, spelled, decoded⟩ := (reads_scanText _ _ _).1 scanned
      rw [← found, spells_spaced_skipBlanks] at spelled
      exact ⟨tree, spelled, JsonTree.spelling?_of_text? decoded⟩
  · rintro ⟨tree, spelled, decoded⟩
    have bare := spells_spaced_iff.1 spelled
    cases tree with
    | null =>
      cases decoded
      rw [spells_null_iff.1 bare]
      have literal : scanLiteral ['u', 'l', 'l'] (['u', 'l', 'l'] ++ r) = .ok r :=
        scanLiteral_eq_ok_iff.2 rfl
      exact congrArg (Except.map fun rest => (none, rest)) literal
    | string units =>
      obtain ⟨text, isText, rfl⟩ := Option.map_eq_some_iff.1 decoded
      obtain ⟨t, opened, -⟩ := spells_string_iff.1 bare
      rw [← spells_spaced_skipBlanks, opened] at spelled
      rw [opened]
      exact map_eq_ok_iff.2 ⟨(text, r), (reads_scanText _ _ _).2 ⟨.string units, spelled, isText⟩, rfl⟩
    | _ => cases decoded

private theorem Signedness.ofName?_eq (name : String) : Signedness.ofName? name = signednessNamed? name := by
  unfold signednessNamed?
  split
  · decide
  · decide
  · decide
  · rename_i other₁ other₂ other₃
    simp [Signedness.ofName?, Signedness.all, Signedness.name, Ne.symm other₁, Ne.symm other₂,
      Ne.symm other₃]

theorem scanSignednessName_eq_ok_iff {signedness : Signedness} :
    scanSignednessName s = .ok (signedness, r) ↔
      ∃ units, Characters units s r ∧ (unitsText? units).bind signednessNamed? = some signedness := by
  constructor
  · intro h
    obtain ⟨⟨chars, r'⟩, scanned, h⟩ := bind_eq_ok_iff.1 h
    dsimp only at h
    split at h
    · rename_i found
      cases h
      obtain ⟨units, spelled, decoded⟩ := scannedText_eq_ok_iff.1 (map_eq_ok_iff.2 ⟨_, scanned, rfl⟩)
      refine ⟨units, spelled, Option.bind_eq_some_iff.2 ⟨_, decoded, ?_⟩⟩
      rw [← Signedness.ofName?_eq, found]
    · cases h
  · rintro ⟨units, spelled, decoded⟩
    obtain ⟨text, isText, named⟩ := Option.bind_eq_some_iff.1 decoded
    obtain ⟨⟨chars, r'⟩, scanned, same⟩ := map_eq_ok_iff.1 (scannedText_eq_ok_iff.2 ⟨units, spelled, isText⟩)
    cases same
    rw [← Signedness.ofName?_eq] at named
    refine bind_eq_ok_iff.2 ⟨_, scanned, ?_⟩
    dsimp only
    rw [named]
    rfl

theorem openOnlyKey_eq_ok_iff : openOnlyKey s = .ok r ↔ Gap s ('"' :: r) := by
  unfold openOnlyKey
  constructor
  · intro h
    split at h
    · cases h
    rename_i c t found
    split at h
    · rename_i quote
      cases h
      exact gap_of_skipBlanks_eq (quote ▸ found)
    · cases h
  · intro gap
    rw [gap.skipBlanks_eq_cons (by decide)]
    rfl

/-- A record with one member, the value of which is null. -/
theorem spells_nullMember_iff {key : List UInt16} :
    Spells (.members true [(key, .null)]) s r ↔
      ∃ t u v w, Gap s ('"' :: t) ∧ Characters key t u ∧ Gap u (':' :: v) ∧ Spells (.spaced .null) v w ∧
        Gap w ('\x7d' :: r) := by
  constructor
  · intro h
    cases h with
    | @member first key tree members s t u v w x r joint quote name colon value rest =>
      obtain rfl : s = t := joint
      cases rest with
      | endOfRecord gap => exact ⟨u, v, w, x, quote, name, colon, value, gap⟩
  · rintro ⟨t, u, v, w, quote, name, colon, value, gap⟩
    exact .member rfl quote name colon value (.endOfRecord gap)

private theorem reads_scanSignedness : Reads scanSignedness JsonTree.signedness? := by
  intro s signedness r
  unfold scanSignedness
  constructor
  · intro h
    split at h
    · cases h
    rename_i c t found
    split_ifs at h with quote brace
    · obtain ⟨units, chars, named⟩ := scanSignednessName_eq_ok_iff.1 h
      exact ⟨.string units, .spaced (gap_of_skipBlanks_eq (quote ▸ found)) (.string chars), named⟩
    · obtain ⟨u, opened, h⟩ := bind_eq_ok_iff.1 h
      obtain ⟨⟨signedness', v⟩, scanned, h⟩ := bind_eq_ok_iff.1 h
      obtain ⟨w, colon, h⟩ := bind_eq_ok_iff.1 h
      obtain ⟨x, null, h⟩ := bind_eq_ok_iff.1 h
      obtain ⟨key, chars, named⟩ := scanSignednessName_eq_ok_iff.1 scanned
      split at h
      · cases h
      rename_i d y last
      split_ifs at h with close
      cases h
      refine ⟨.record [(key, .null)], .spaced (gap_of_skipBlanks_eq (brace ▸ found)) (.record ?_), named⟩
      exact spells_nullMember_iff.2 ⟨_, _, _, _, openOnlyKey_eq_ok_iff.1 opened, chars,
        scanColon_eq_ok_iff.1 colon, scanNull_eq_ok_iff.1 (within_eq_ok_iff.1 null),
        gap_of_skipBlanks_eq (close ▸ last)⟩
  · rintro ⟨tree, spelled, decoded⟩
    have bare := spells_spaced_iff.1 spelled
    cases tree with
    | string units =>
      obtain ⟨t, opened, chars⟩ := spells_string_iff.1 bare
      rw [opened]
      exact scanSignednessName_eq_ok_iff.2 ⟨units, chars, decoded⟩
    | record members =>
      obtain ⟨t, opened, inside⟩ := spells_record_iff.1 bare
      rw [opened]
      unfold JsonTree.signedness? at decoded
      split at decoded
      · cases ‹JsonTree.record members = .string _›
      · rename_i key only
        cases only
        dsimp only
        rw [if_neg (by decide), if_pos rfl]
        obtain ⟨u, v, w, x, quote, name, colon, value, gap⟩ := spells_nullMember_iff.1 inside
        refine bind_eq_ok_iff.2 ⟨_, openOnlyKey_eq_ok_iff.2 quote, ?_⟩
        refine bind_eq_ok_iff.2 ⟨_, scanSignednessName_eq_ok_iff.2 ⟨key, name, decoded⟩, ?_⟩
        refine bind_eq_ok_iff.2 ⟨_, scanColon_eq_ok_iff.2 colon, ?_⟩
        refine bind_eq_ok_iff.2 ⟨_, within_eq_ok_iff.2 (scanNull_eq_ok_iff.2 value), ?_⟩
        dsimp only
        rw [gap.skipBlanks_eq_cons (by decide)]
        rfl
      · cases decoded
    | _ => cases decoded

theorem Reads.field {given : Option α} {key : String} {put : α → σ} {result : σ} (reads : Reads scan decode) :
    ((scanField given key scan s).map fun (a, rest) => (put a, rest)) = .ok (result, r) ↔
      ∃ t tree, Gap s (':' :: t) ∧ Spells (.spaced tree) t r ∧
        (newField? given (decode tree)).map put = some result := by
  rw [map_eq_ok_iff]
  cases given with
  | some a =>
    constructor
    · rintro ⟨_, h, -⟩
      cases h
    · rintro ⟨_, _, -, -, h⟩
      cases h
  | none =>
    constructor
    · rintro ⟨⟨a, r'⟩, h, same⟩
      cases same
      obtain ⟨t, colon, inside⟩ := bind_eq_ok_iff.1 h
      obtain ⟨tree, spelled, decoded⟩ := (reads _ _ _).1 (within_eq_ok_iff.1 inside)
      exact ⟨t, tree, scanColon_eq_ok_iff.1 colon, spelled, Option.map_eq_some_iff.2 ⟨a, decoded, rfl⟩⟩
    · rintro ⟨t, tree, colon, spelled, taken⟩
      obtain ⟨a, decoded, rfl⟩ := Option.map_eq_some_iff.1 taken
      refine ⟨(a, r), bind_eq_ok_iff.2 ⟨t, scanColon_eq_ok_iff.2 colon, ?_⟩, rfl⟩
      exact within_eq_ok_iff.2 ((reads _ _ _).2 ⟨tree, spelled, decoded⟩)

theorem spells_of_passMember {key : String} (h : passMember key s = .ok r) :
    ∃ t tree, Gap s (':' :: t) ∧ Spells (.spaced tree) t r := by
  obtain ⟨t, colon, inside⟩ := bind_eq_ok_iff.1 h
  obtain ⟨tree, spelled⟩ := spells_of_passValue (within_eq_ok_iff.1 inside)
  exact ⟨t, tree, scanColon_eq_ok_iff.1 colon, spelled⟩

theorem Spells.passMember {tree : JsonTree} (value : Spells (.spaced tree) t r) (colon : Gap s (':' :: t))
    (stop : NumeralStops r) (key : String) : passMember key s = .ok r :=
  bind_eq_ok_iff.2 ⟨t, scanColon_eq_ok_iff.2 colon, within_eq_ok_iff.2 (value.passValue (stop.stops tree))⟩

def EntryFields.absorb (given : EntryFields) (name : String) (tree : JsonTree) : Option EntryFields := do
  let tag ← absorbField? "tag" JsonTree.text? given.tag name tree
  let signedness ← absorbField? "signedness" JsonTree.signedness? given.signedness name tree
  let cType ← absorbField? "c_type" JsonTree.spelling? given.cType name tree
  return ⟨tag, signedness, cType⟩

/-- A member gives at most one field. -/
theorem EntryFields.absorb_eq (given : EntryFields) (name : String) (tree : JsonTree) :
    given.absorb name tree =
      if name = "tag" then (newField? given.tag tree.text?).map fun tag => { given with tag := some tag }
      else if name = "signedness" then
        (newField? given.signedness tree.signedness?).map fun signedness =>
          { given with signedness := some signedness }
      else if name = "c_type" then
        (newField? given.cType tree.spelling?).map fun cType => { given with cType := some cType }
      else some given := by
  unfold EntryFields.absorb absorbField?
  by_cases tag : name = "tag"
  · subst tag
    cases newField? given.tag tree.text? <;> rfl
  by_cases signedness : name = "signedness"
  · subst signedness
    cases newField? given.signedness tree.signedness? <;> rfl
  by_cases cType : name = "c_type"
  · subst cType
    cases newField? given.cType tree.spelling? <;> rfl
  · simp only [if_neg tag, if_neg signedness, if_neg cType]
    rfl

theorem reads_entryShape : entryShape.Reads EntryFields.absorb where
  sound {given given' key s r} h := by
    change given.scanMember key s = .ok (given', r) at h
    unfold EntryFields.scanMember at h
    simp only [EntryFields.absorb_eq]
    split_ifs at h ⊢
    · exact reads_scanText.field.1 h
    · exact reads_scanSignedness.field.1 h
    · exact reads_scanSpelling.field.1 h
    · obtain ⟨u, passed, same⟩ := map_eq_ok_iff.1 h
      cases same
      obtain ⟨t, tree, colon, spelled⟩ := spells_of_passMember passed
      exact ⟨t, tree, colon, spelled, rfl⟩
  complete {given given' key s t r tree} colon spelled stop absorbed := by
    change given.scanMember key s = .ok (given', r)
    unfold EntryFields.scanMember
    rw [EntryFields.absorb_eq] at absorbed
    split_ifs at absorbed ⊢
    · exact reads_scanText.field.2 ⟨t, tree, colon, spelled, absorbed⟩
    · exact reads_scanSignedness.field.2 ⟨t, tree, colon, spelled, absorbed⟩
    · exact reads_scanSpelling.field.2 ⟨t, tree, colon, spelled, absorbed⟩
    · cases absorbed
      exact map_eq_ok_iff.2 ⟨r, spelled.passMember colon stop key, rfl⟩

/-- The fields that `members` give together with those that were there before them. -/
structure EntryFields.After (given : EntryFields) (members : List (String × JsonTree))
    (result : EntryFields) : Prop where
  tag : fieldAfter? "tag" JsonTree.text? given.tag members = some result.tag
  signedness : fieldAfter? "signedness" JsonTree.signedness? given.signedness members = some result.signedness
  cType : fieldAfter? "c_type" JsonTree.spelling? given.cType members = some result.cType

theorem EntryFields.after_cons_iff {given result : EntryFields} {name : String} {tree : JsonTree}
    {members : List (String × JsonTree)} :
    given.After ((name, tree) :: members) result ↔
      ∃ given', given.absorb name tree = some given' ∧ given'.After members result := by
  unfold EntryFields.absorb
  constructor
  · rintro ⟨tag, signedness, cType⟩
    rw [fieldAfter?_cons] at tag signedness cType
    obtain ⟨tag', hereTag, laterTag⟩ := Option.bind_eq_some_iff.1 tag
    obtain ⟨signedness', hereSignedness, laterSignedness⟩ := Option.bind_eq_some_iff.1 signedness
    obtain ⟨cType', hereCType, laterCType⟩ := Option.bind_eq_some_iff.1 cType
    refine ⟨⟨tag', signedness', cType'⟩, ?_, laterTag, laterSignedness, laterCType⟩
    rw [hereTag, hereSignedness, hereCType]
    rfl
  · rintro ⟨given', absorbed, later⟩
    obtain ⟨tag, hereTag, absorbed⟩ := Option.bind_eq_some_iff.1 absorbed
    obtain ⟨signedness, hereSignedness, absorbed⟩ := Option.bind_eq_some_iff.1 absorbed
    obtain ⟨cType, hereCType, same⟩ := Option.bind_eq_some_iff.1 absorbed
    cases same
    refine ⟨?_, ?_, ?_⟩ <;> rw [fieldAfter?_cons]
    · exact Option.bind_eq_some_iff.2 ⟨tag, hereTag, later.tag⟩
    · exact Option.bind_eq_some_iff.2 ⟨signedness, hereSignedness, later.signedness⟩
    · exact Option.bind_eq_some_iff.2 ⟨cType, hereCType, later.cType⟩

theorem EntryFields.after_nil_iff {given result : EntryFields} : given.After [] result ↔ given = result := by
  constructor
  · rintro ⟨tag, signedness, cType⟩
    obtain ⟨tag', signedness', cType'⟩ := result
    cases tag
    cases signedness
    cases cType
    rfl
  · rintro rfl
    exact ⟨rfl, rfl, rfl⟩

theorem absorbAll_absorb_eq_some_iff {members : List (List UInt16 × JsonTree)}
    {given result : EntryFields} :
    absorbAll EntryFields.absorb given members = some result ↔
      ∃ named, namedMembers? members = some named ∧ given.After named result :=
  absorbAll_eq_some_iff EntryFields.After (fun _ _ => EntryFields.after_nil_iff)
    fun _ _ _ _ _ => EntryFields.after_cons_iff

theorem EntryFields.entry_eq_ok_iff {given : EntryFields} {entry : TypeEntry} :
    given.entry r = .ok entry ↔ given.tag = some entry.tag ∧ given.signedness = some entry.signedness ∧
      given.cType.getD none = entry.cType := by
  obtain ⟨tag, signedness, cType⟩ := given
  obtain ⟨tag', signedness', cType'⟩ := entry
  cases tag with
  | none => constructor <;> nofun
  | some tag =>
    cases signedness with
    | none => constructor <;> nofun
    | some signedness =>
      simp only [EntryFields.entry, Except.ok.injEq, TypeEntry.mk.injEq, Option.some.injEq]

theorem entryValue?_record_eq_some_iff {members : List (List UInt16 × JsonTree)} {entry : TypeEntry} :
    (JsonTree.record members).entryValue? = some entry ↔
      ∃ given, absorbAll EntryFields.absorb .initial members = some given ∧ given.entry r = .ok entry := by
  unfold JsonTree.entryValue?
  constructor
  · intro h
    obtain ⟨named, found, h⟩ := Option.bind_eq_some_iff.1 h
    obtain ⟨tag, hasTag, h⟩ := Option.bind_eq_some_iff.1 h
    obtain ⟨signedness, hasSignedness, h⟩ := Option.bind_eq_some_iff.1 h
    obtain ⟨cType, hasCType, same⟩ := Option.bind_eq_some_iff.1 h
    cases same
    obtain ⟨cTypeGiven, cTypeAfter, same⟩ := optional?_eq_some_iff.1 hasCType
    refine ⟨⟨some tag, some signedness, cTypeGiven⟩, absorbAll_absorb_eq_some_iff.2
      ⟨named, found, required?_eq_some_iff.1 hasTag, required?_eq_some_iff.1 hasSignedness, cTypeAfter⟩, ?_⟩
    exact EntryFields.entry_eq_ok_iff.2 ⟨rfl, rfl, same⟩
  · rintro ⟨given, all, complete⟩
    obtain ⟨named, found, after⟩ := absorbAll_absorb_eq_some_iff.1 all
    obtain ⟨tag, signedness, cType⟩ := EntryFields.entry_eq_ok_iff.1 complete
    refine Option.bind_eq_some_iff.2 ⟨named, found, ?_⟩
    refine Option.bind_eq_some_iff.2 ⟨_, required?_eq_some_iff.2 (tag ▸ after.tag), ?_⟩
    refine Option.bind_eq_some_iff.2 ⟨_, required?_eq_some_iff.2 (signedness ▸ after.signedness), ?_⟩
    exact Option.bind_eq_some_iff.2 ⟨_, optional?_eq_some_iff.2 ⟨_, after.cType, cType⟩, rfl⟩

theorem scanEntryRecord_eq_ok_iff {entry : TypeEntry} :
    scanEntryRecord s = .ok (entry, r) ↔
      ∃ members, Spells (.members true members) s r ∧ (JsonTree.record members).entryValue? = some entry := by
  constructor
  · intro h
    obtain ⟨⟨given, r'⟩, scanned, h⟩ := bind_eq_ok_iff.1 h
    obtain ⟨entry', complete, same⟩ := bind_eq_ok_iff.1 h
    cases same
    obtain ⟨members, spelled, all⟩ := reads_entryShape.scan_eq_ok_iff.1 scanned
    exact ⟨members, spelled, entryValue?_record_eq_some_iff.2 ⟨given, all, complete⟩⟩
  · rintro ⟨members, spelled, decoded⟩
    obtain ⟨given, all, complete⟩ := entryValue?_record_eq_some_iff.1 decoded
    refine bind_eq_ok_iff.2 ⟨_, reads_entryShape.scan_eq_ok_iff.2 ⟨members, spelled, all⟩, ?_⟩
    exact bind_eq_ok_iff.2 ⟨entry, complete, rfl⟩

theorem Reads.required {wanted : Wanted} {index : Nat} {a : α} (reads : Reads scan decode) :
    scanRequired wanted index scan s = .ok (a, r) ↔
      ∃ t tree, Joint (index == 0) s t ∧ Spells (.spaced tree) t r ∧ decode tree = some a := by
  constructor
  · intro h
    obtain ⟨⟨more, t⟩, next, h⟩ := bind_eq_ok_iff.1 h
    dsimp only at h
    split_ifs at h with present
    · subst present
      obtain ⟨u, joint, rfl⟩ := joint_of_nextElement next
      obtain ⟨tree, spelled, decoded⟩ := (reads _ _ _).1 (within_eq_ok_iff.1 h)
      exact ⟨u, tree, joint, spells_spaced_skipBlanks.1 spelled, decoded⟩
  · rintro ⟨t, tree, joint, spelled, decoded⟩
    refine bind_eq_ok_iff.2 ⟨_, joint.nextElement_eq spelled, ?_⟩
    exact within_eq_ok_iff.2 ((reads _ _ _).2 ⟨tree, spells_spaced_skipBlanks.2 spelled, decoded⟩)

/-- The optional last field of a list of fields. -/
def lastSpelling? : List JsonTree → Option (Option String)
  | [] => some none
  | [tree] => tree.spelling?
  | _ => none

theorem scanLastField_eq_ok_iff {cType : Option String} :
    scanLastField s = .ok (cType, r) ↔
      ∃ trees, Spells (.elements false trees) s r ∧ lastSpelling? trees = some cType := by
  constructor
  · intro h
    obtain ⟨⟨more, t⟩, next, h⟩ := bind_eq_ok_iff.1 h
    dsimp only at h
    split_ifs at h with present
    · subst present
      obtain ⟨u, joint, rfl⟩ := joint_of_nextElement next
      obtain ⟨⟨cType', v⟩, scanned, h⟩ := bind_eq_ok_iff.1 h
      obtain ⟨w, closed, h⟩ := bind_eq_ok_iff.1 h
      cases h
      obtain ⟨tree, spelled, decoded⟩ := (reads_scanSpelling _ _ _).1 (within_eq_ok_iff.1 scanned)
      exact ⟨[tree], .element joint (spells_spaced_skipBlanks.1 spelled)
        (.endOfList (closeList_eq_ok_iff.1 closed)), decoded⟩
    · rw [Bool.not_eq_true] at present
      subst present
      cases h
      exact ⟨[], .endOfList (nextElement_eq_ok_false_iff.1 next), rfl⟩
  · rintro ⟨trees, spelled, decoded⟩
    cases spelled with
    | endOfList gap =>
      cases decoded
      exact bind_eq_ok_iff.2 ⟨_, nextElement_eq_ok_false_iff.2 gap, rfl⟩
    | element joint value rest =>
      cases rest with
      | element => cases decoded
      | endOfList gap =>
        have scanned := (reads_scanSpelling _ _ _).2 ⟨_, spells_spaced_skipBlanks.2 value, decoded⟩
        refine bind_eq_ok_iff.2 ⟨_, joint.nextElement_eq value, ?_⟩
        refine bind_eq_ok_iff.2 ⟨_, within_eq_ok_iff.2 scanned, ?_⟩
        exact bind_eq_ok_iff.2 ⟨_, closeList_eq_ok_iff.2 gap, rfl⟩

theorem entryValue?_list_eq_some_iff {tag signedness : JsonTree} {last : List JsonTree} {entry : TypeEntry} :
    (JsonTree.list (tag :: signedness :: last)).entryValue? = some entry ↔
      tag.text? = some entry.tag ∧ signedness.signedness? = some entry.signedness ∧
        lastSpelling? last = some entry.cType := by
  cases last with
  | nil =>
    constructor
    · intro h
      obtain ⟨tag', hasTag, h⟩ := Option.bind_eq_some_iff.1 h
      obtain ⟨signedness', hasSignedness, same⟩ := Option.bind_eq_some_iff.1 h
      cases same
      exact ⟨hasTag, hasSignedness, rfl⟩
    · rintro ⟨hasTag, hasSignedness, hasLast⟩
      obtain ⟨tag', signedness', cType'⟩ := entry
      cases hasLast
      exact Option.bind_eq_some_iff.2 ⟨_, hasTag, Option.bind_eq_some_iff.2 ⟨_, hasSignedness, rfl⟩⟩
  | cons cType others =>
    cases others with
    | nil =>
      constructor
      · intro h
        obtain ⟨tag', hasTag, h⟩ := Option.bind_eq_some_iff.1 h
        obtain ⟨signedness', hasSignedness, h⟩ := Option.bind_eq_some_iff.1 h
        obtain ⟨cType', hasCType, same⟩ := Option.bind_eq_some_iff.1 h
        cases same
        exact ⟨hasTag, hasSignedness, hasCType⟩
      · rintro ⟨hasTag, hasSignedness, hasCType⟩
        refine Option.bind_eq_some_iff.2 ⟨_, hasTag, Option.bind_eq_some_iff.2 ⟨_, hasSignedness, ?_⟩⟩
        exact Option.bind_eq_some_iff.2 ⟨_, hasCType, rfl⟩
    | cons => constructor <;> nofun

theorem scanEntryList_eq_ok_iff {entry : TypeEntry} :
    scanEntryList s = .ok (entry, r) ↔
      ∃ trees, Spells (.elements true trees) s r ∧ (JsonTree.list trees).entryValue? = some entry := by
  constructor
  · intro h
    obtain ⟨⟨tag, s₁⟩, first, h⟩ := bind_eq_ok_iff.1 h
    obtain ⟨⟨signedness, s₂⟩, second, h⟩ := bind_eq_ok_iff.1 h
    obtain ⟨⟨cType, s₃⟩, last, same⟩ := bind_eq_ok_iff.1 h
    cases same
    obtain ⟨t₁, tagTree, joint₁, value₁, hasTag⟩ := reads_scanText.required.1 first
    obtain ⟨t₂, signednessTree, joint₂, value₂, hasSignedness⟩ := reads_scanSignedness.required.1 second
    obtain ⟨trees, rest, hasLast⟩ := scanLastField_eq_ok_iff.1 last
    exact ⟨tagTree :: signednessTree :: trees, .element joint₁ value₁ (.element joint₂ value₂ rest),
      entryValue?_list_eq_some_iff.2 ⟨hasTag, hasSignedness, hasLast⟩⟩
  · rintro ⟨trees, spelled, decoded⟩
    cases spelled with
    | endOfList => cases decoded
    | element joint₁ value₁ rest =>
      cases rest with
      | endOfList => cases decoded
      | element joint₂ value₂ rest =>
        obtain ⟨hasTag, hasSignedness, hasLast⟩ := entryValue?_list_eq_some_iff.1 decoded
        refine bind_eq_ok_iff.2 ⟨_, reads_scanText.required.2 ⟨_, _, joint₁, value₁, hasTag⟩, ?_⟩
        refine bind_eq_ok_iff.2
          ⟨_, reads_scanSignedness.required.2 ⟨_, _, joint₂, value₂, hasSignedness⟩, ?_⟩
        exact bind_eq_ok_iff.2 ⟨_, scanLastField_eq_ok_iff.2 ⟨_, rest, hasLast⟩, rfl⟩

theorem reads_scanEntry : Reads scanEntry JsonTree.entryValue? := by
  refine reads_of_list_of_record (fun _ _ _ => scanEntryList_eq_ok_iff)
    (fun _ _ _ => scanEntryRecord_eq_ok_iff) ?_
  intro tree entry decoded
  cases tree with
  | list trees => exact .inl ⟨trees, rfl⟩
  | record members => exact .inr ⟨members, rfl⟩
  | _ => cases decoded

end CollectionGlue
