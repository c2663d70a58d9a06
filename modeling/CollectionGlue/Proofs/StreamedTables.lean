import CollectionGlue.Proofs.StreamedEntries

/-! # Tables read in one pass are the tables decoded from their trees -/
namespace CollectionGlue

variable {α : Type} {s t r : List Char} {scan : List Char → Except Fault (α × List Char)}
  {decode : JsonTree → Option α}

private theorem spells_of_scanEntriesFrom {index : Nat} {entries : List TypeEntry}
    (h : scanEntriesFrom index s = .ok (entries, r)) :
    ∃ trees, Spells (.elements (index == 0) trees) s r ∧ trees.mapM JsonTree.entryValue? = some entries := by
  fun_induction scanEntriesFrom index s generalizing entries with
  | case1 => cases h
  | case2 index s t closed =>
    cases h
    exact ⟨[], .endOfList (nextElement_eq_ok_false_iff.1 closed), rfl⟩
  | case3 => cases h
  | case4 index s t more entry u hentry ih =>
    obtain ⟨⟨entries', r'⟩, scanned, same⟩ := map_eq_ok_iff.1 h
    cases same
    obtain ⟨v, joint, rfl⟩ := joint_of_nextElement more
    obtain ⟨tree, value, decoded⟩ := (reads_scanEntry _ _ _).1 (within_eq_ok_iff.1 hentry)
    obtain ⟨trees, rest, all⟩ := ih scanned
    exact ⟨tree :: trees, .element joint (spells_spaced_skipBlanks.1 value) rest,
      mapM_cons_eq_some_iff.2 ⟨entry, entries', decoded, all, rfl⟩⟩

private theorem scanEntriesFrom_of_spells {trees : List JsonTree} {index : Nat} {entries : List TypeEntry}
    (spelled : Spells (.elements (index == 0) trees) s r) (all : trees.mapM JsonTree.entryValue? = some entries) :
    scanEntriesFrom index s = .ok (entries, r) := by
  induction trees generalizing index s entries with
  | nil =>
    cases all
    cases spelled with
    | endOfList gap => exact scanEntriesFrom_of_end (nextElement_eq_ok_false_iff.2 gap)
  | cons tree trees ih =>
    obtain ⟨entry, entries', decoded, later, rfl⟩ := mapM_cons_eq_some_iff.1 all
    cases spelled with
    | element joint value rest =>
      have scanned := (reads_scanEntry _ _ _).2 ⟨tree, spells_spaced_skipBlanks.2 value, decoded⟩
      have behind : Spells (.elements (index + 1 == 0) trees) _ r := rest
      rw [scanEntriesFrom_of_entry index (joint.nextElement_eq value) scanned, ih behind later]
      rfl

private theorem reads_scanEntries : Reads scanEntries JsonTree.entries? := by
  intro s entries r
  unfold scanEntries
  constructor
  · intro h
    split at h
    · cases h
    rename_i c t found
    split_ifs at h with bracket
    obtain ⟨trees, inside, decoded⟩ := spells_of_scanEntriesFrom h
    exact ⟨.list trees, .spaced (gap_of_skipBlanks_eq (bracket ▸ found)) (.list inside), decoded⟩
  · rintro ⟨tree, spelled, decoded⟩
    cases tree with
    | list trees =>
      obtain ⟨t, opened, inside⟩ := spells_list_iff.1 (spells_spaced_iff.1 spelled)
      rw [opened]
      exact scanEntriesFrom_of_spells inside decoded
    | _ => cases decoded

def absorbTypes (given : Option (List TypeEntry)) (name : String) (tree : JsonTree) :
    Option (Option (List TypeEntry)) :=
  absorbField? "types" JsonTree.entries? given name tree

theorem reads_tableShape : tableShape.Reads absorbTypes where
  sound {given given' key s r} h := by
    change scanTableMember given key s = .ok (given', r) at h
    unfold scanTableMember at h
    unfold absorbTypes absorbField?
    split_ifs at h ⊢
    · exact reads_scanEntries.field.1 h
    · obtain ⟨u, passed, same⟩ := map_eq_ok_iff.1 h
      cases same
      obtain ⟨t, tree, colon, spelled⟩ := spells_of_passMember passed
      exact ⟨t, tree, colon, spelled, rfl⟩
  complete {given given' key s t r tree} colon spelled stop absorbed := by
    change scanTableMember given key s = .ok (given', r)
    unfold scanTableMember
    unfold absorbTypes absorbField? at absorbed
    split_ifs at absorbed ⊢
    · exact reads_scanEntries.field.2 ⟨t, tree, colon, spelled, absorbed⟩
    · cases absorbed
      exact map_eq_ok_iff.2 ⟨r, spelled.passMember colon stop key, rfl⟩

theorem absorbAll_absorbTypes_eq_some_iff {members : List (List UInt16 × JsonTree)}
    {given result : Option (List TypeEntry)} :
    absorbAll absorbTypes given members = some result ↔
      ∃ named, namedMembers? members = some named ∧
        fieldAfter? "types" JsonTree.entries? given named = some result := by
  refine absorbAll_eq_some_iff
    (fun given named result => fieldAfter? "types" JsonTree.entries? given named = some result)
    (fun given result => ?_) fun given name tree members result => ?_
  · rw [fieldAfter?_nil, Option.some.injEq]
  · rw [fieldAfter?_cons]
    exact Option.bind_eq_some_iff

theorem table?_record_eq_some_iff {members : List (List UInt16 × JsonTree)} {entries : List TypeEntry} :
    (JsonTree.record members).table? = some entries ↔
      absorbAll absorbTypes none members = some (some entries) := by
  rw [absorbAll_absorbTypes_eq_some_iff]
  simp only [← required?_eq_some_iff]
  exact Option.bind_eq_some_iff

theorem scanTableRecord_eq_ok_iff {entries : List TypeEntry} :
    scanTableRecord s = .ok (entries, r) ↔
      ∃ members, Spells (.members true members) s r ∧ (JsonTree.record members).table? = some entries := by
  constructor
  · intro h
    obtain ⟨⟨given, r'⟩, scanned, h⟩ := bind_eq_ok_iff.1 h
    obtain ⟨members, spelled, all⟩ := reads_tableShape.scan_eq_ok_iff.1 scanned
    dsimp only at h
    split at h
    · cases h
      exact ⟨members, spelled, table?_record_eq_some_iff.2 all⟩
    · cases h
  · rintro ⟨members, spelled, decoded⟩
    have all := table?_record_eq_some_iff.1 decoded
    exact bind_eq_ok_iff.2 ⟨_, reads_tableShape.scan_eq_ok_iff.2 ⟨members, spelled, all⟩, rfl⟩

theorem scanTableList_eq_ok_iff {entries : List TypeEntry} :
    scanTableList s = .ok (entries, r) ↔
      ∃ trees, Spells (.elements true trees) s r ∧ (JsonTree.list trees).table? = some entries := by
  constructor
  · intro h
    obtain ⟨⟨entries', u⟩, only, h⟩ := bind_eq_ok_iff.1 h
    obtain ⟨v, closed, same⟩ := bind_eq_ok_iff.1 h
    cases same
    obtain ⟨t, tree, joint, value, decoded⟩ := reads_scanEntries.required.1 only
    exact ⟨[tree], .element joint value (.endOfList (closeList_eq_ok_iff.1 closed)), decoded⟩
  · rintro ⟨trees, spelled, decoded⟩
    cases spelled with
    | endOfList => cases decoded
    | element joint value rest =>
      cases rest with
      | element => cases decoded
      | endOfList gap =>
        refine bind_eq_ok_iff.2 ⟨_, reads_scanEntries.required.2 ⟨_, _, joint, value, decoded⟩, ?_⟩
        exact bind_eq_ok_iff.2 ⟨_, closeList_eq_ok_iff.2 gap, rfl⟩

theorem reads_scanTable : Reads scanTable JsonTree.table? := by
  refine reads_of_list_of_record (fun _ _ _ => scanTableList_eq_ok_iff)
    (fun _ _ _ => scanTableRecord_eq_ok_iff) ?_
  intro tree entries decoded
  cases tree with
  | list trees => exact .inl ⟨trees, rfl⟩
  | record members => exact .inr ⟨members, rfl⟩
  | _ => cases decoded

private theorem toOption_readDocument (scan : List Char → Except Fault (α × List Char)) (source : String) :
    (readDocument scan source).toOption = (scan source.toList).toOption.map (·.1) := by
  unfold readDocument
  split
  · rename_i found
    rw [found]
    rfl
  · rename_i found
    rw [found]
    rfl

/-- A reader that takes no numeral gives of a document what is decoded from its tree. -/
theorem Reads.toOption_readDocument (reads : Reads scan decode)
    (noNumeral : ∀ text, decode (.numeral text) = none) {tree : JsonTree} {source : String}
    (document : Document tree source.toList) :
    (readDocument scan source).toOption = decode tree := by
  obtain ⟨r, spelled, gap⟩ := document
  have stop := (gap.numeralStops numeralStops_nil).stops tree
  ext a
  rw [CollectionGlue.toOption_readDocument, Option.map_eq_some_iff]
  constructor
  · rintro ⟨⟨_, r'⟩, scanned, rfl⟩
    obtain ⟨tree', spelled', decoded⟩ := (reads _ _ _).1 (toOption_eq_some_iff.1 scanned)
    have stop' : tree'.Stops r' := by
      cases tree' with
      | numeral text => exact absurd decoded (by rw [noNumeral]; nofun)
      | _ => trivial
    obtain ⟨rfl, rfl⟩ := spelled.alone stop tree' r' stop' spelled'
    exact decoded
  · intro decoded
    exact ⟨(a, r), toOption_eq_some_iff.2 ((reads _ _ _).2 ⟨tree, spelled, decoded⟩), rfl⟩

/-- The readers succeed on a document exactly when its tree is decoded, and with the same result. -/
theorem toOption_read_eq_decode {tree : JsonTree} {source : String} (document : Document tree source.toList) :
    (readTable source).toOption = tree.table? ∧ (readEntries source).toOption = tree.entries? ∧
      (readEntry source).toOption = tree.entryValue? :=
  ⟨reads_scanTable.toOption_readDocument (fun _ => rfl) document,
    reads_scanEntries.toOption_readDocument (fun _ => rfl) document,
    reads_scanEntry.toOption_readDocument (fun _ => rfl) document⟩

def listedEntryTree : JsonTree :=
  .record [(['x'].flatMap utf16Units, .list [.numeral ['-', '1']]),
    (['t', 'y', 'p', 'e', 's'].flatMap utf16Units, .list [.list [
      .string (UInt16.ofNat 0x69 :: ['n', 't'].flatMap utf16Units),
      .record [(['s', 'i', 'g', 'n', 'e', 'd'].flatMap utf16Units, .null)]]])]

/-- An entry as a list without a spelling, its tag with an escape and its signedness as a key, behind a
member that is passed over. -/
theorem toOption_read_listedEntry :
    Document listedEntryTree " \x7b\"x\":[-1],\"types\":[[\"\\u0069nt\",\x7b\"signed\":null\x7d]]\x7d".toList ∧
      (readTable " \x7b\"x\":[-1],\"types\":[[\"\\u0069nt\",\x7b\"signed\":null\x7d]]\x7d").toOption =
        some [⟨"int", .signed, none⟩] := by
  have numeral : IsNumeral ['-', '1'] :=
    ⟨['-'], ['1'], [], [], .inr rfl, .inr ⟨⟨nofun, rfl⟩, nofun⟩, .inl rfl, .inl rfl, rfl⟩
  have unknown (r : List Char) :
      Spells (.spaced (.list [.numeral ['-', '1']])) (['[', '-', '1', ']'] ++ r) r :=
    .spaced (.refl _) (.list (.element rfl (.spaced (.refl _) (.numeral numeral _)) (.endOfList (.refl _))))
  have digits (r : List Char) : FourHexDigits 0x69 ('0' :: '0' :: '6' :: '9' :: r) r :=
    ⟨'0', '0', '6', '9', 0, 0, 6, 9, rfl, by decide, by decide, by decide, by decide, rfl⟩
  have tag (r : List Char) : Spells
      (.spaced (.string (UInt16.ofNat 0x69 :: ['n', 't'].flatMap utf16Units)))
      (['"', '\\', 'u', '0', '0', '6', '9', 'n', 't', '"'] ++ r) r :=
    .spaced (.refl _) (.string (.unit (digits _) (characters_plain ['n', 't'] (by simp) r)))
  have signed (r : List Char) : Spells
      (.spaced (.record [(['s', 'i', 'g', 'n', 'e', 'd'].flatMap utf16Units, .null)]))
      (['\x7b', '"', 's', 'i', 'g', 'n', 'e', 'd', '"', ':', 'n', 'u', 'l', 'l', '\x7d'] ++ r) r :=
    .spaced (.refl _) (.record (.member rfl (.refl _)
      (characters_plain ['s', 'i', 'g', 'n', 'e', 'd'] (by simp) _) (.refl _)
      (.spaced (.refl _) (.null _)) (.endOfRecord (.refl _))))
  have entries : Spells
      (.elements true [.list [.string (UInt16.ofNat 0x69 :: ['n', 't'].flatMap utf16Units),
        .record [(['s', 'i', 'g', 'n', 'e', 'd'].flatMap utf16Units, .null)]]])
      ('[' :: (['"', '\\', 'u', '0', '0', '6', '9', 'n', 't', '"'] ++ ',' ::
        (['\x7b', '"', 's', 'i', 'g', 'n', 'e', 'd', '"', ':', 'n', 'u', 'l', 'l', '\x7d'] ++
          [']', ']', '\x7d']))) ['\x7d'] :=
    .element rfl (.spaced (.refl _) (.list (.element rfl (tag _) (.element (.refl _) (signed _)
      (.endOfList (.refl _)))))) (.endOfList (.refl _))
  have spelled : Spells (.spaced listedEntryTree)
      (' ' :: '\x7b' :: '"' :: (['x'] ++ '"' :: ':' :: (['[', '-', '1', ']'] ++ ',' :: '"' ::
        (['t', 'y', 'p', 'e', 's'] ++ '"' :: ':' :: '[' :: '[' ::
          (['"', '\\', 'u', '0', '0', '6', '9', 'n', 't', '"'] ++ ',' ::
            (['\x7b', '"', 's', 'i', 'g', 'n', 'e', 'd', '"', ':', 'n', 'u', 'l', 'l', '\x7d'] ++
              [']', ']', '\x7d'])))))) [] :=
    .spaced (.cons (.inl rfl) (.refl _)) (.record
      (.member rfl (.refl _) (characters_plain ['x'] (by simp) _) (.refl _) (unknown _)
        (.member (.refl _) (.refl _) (characters_plain ['t', 'y', 'p', 'e', 's'] (by simp) _) (.refl _)
          (.spaced (.refl _) (.list entries)) (.endOfRecord (.refl _)))))
  have document : Document listedEntryTree
      " \x7b\"x\":[-1],\"types\":[[\"\\u0069nt\",\x7b\"signed\":null\x7d]]\x7d".toList :=
    ⟨[], spelled, .refl []⟩
  exact ⟨document, (toOption_read_eq_decode document).1⟩

end CollectionGlue
