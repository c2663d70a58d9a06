import CollectionGlue.Proofs.PassedSpellings
import CollectionGlue.Proofs.TreeDecoding
import CollectionGlue.Proofs.WrittenEntries

/-! # Reading in one pass: strings, the members of a record, the elements of a list

`Reads scan decode` says that a reader takes exactly the spellings of the trees that are decoded. Members
are taken one after another, and a run over them is shown from one member by induction.
-/
namespace CollectionGlue

/-- A reader succeeds on the spellings of the trees that are decoded, with what they are decoded to. -/
def Reads {α : Type} (scan : List Char → Except Fault (α × List Char)) (decode : JsonTree → Option α) :
    Prop :=
  ∀ s a r, scan s = .ok (a, r) ↔ ∃ tree, Spells (.spaced tree) s r ∧ decode tree = some a

variable {α σ : Type} {s t r : List Char} {first : Bool}

theorem spells_null_iff : Spells (.value .null) s r ↔ s = ['n', 'u', 'l', 'l'] ++ r := by
  constructor
  · rintro ⟨⟩
    rfl
  · rintro rfl
    exact .null r

theorem spells_string_iff {units : List UInt16} :
    Spells (.value (.string units)) s r ↔ ∃ t, s = '"' :: t ∧ Characters units t r := by
  constructor
  · intro h
    cases h with
    | string text => exact ⟨_, rfl, text⟩
  · rintro ⟨t, rfl, text⟩
    exact .string text

theorem spells_list_iff {trees : List JsonTree} :
    Spells (.value (.list trees)) s r ↔ ∃ t, s = '[' :: t ∧ Spells (.elements true trees) t r := by
  constructor
  · intro h
    cases h with
    | list inside => exact ⟨_, rfl, inside⟩
  · rintro ⟨t, rfl, inside⟩
    exact .list inside

theorem spells_record_iff {members : List (List UInt16 × JsonTree)} :
    Spells (.value (.record members)) s r ↔ ∃ t, s = '\x7b' :: t ∧ Spells (.members true members) t r := by
  constructor
  · intro h
    cases h with
    | record inside => exact ⟨_, rfl, inside⟩
  · rintro ⟨t, rfl, inside⟩
    exact .record inside

theorem spells_spaced_skipBlanks {tree : JsonTree} :
    Spells (.spaced tree) (skipBlanks s) r ↔ Spells (.spaced tree) s r := by
  rw [spells_spaced_iff, spells_spaced_iff, ← (gap_skipBlanks s).skipBlanks_eq]

theorem scannedText_eq_ok_iff {text : String} :
    ((scanString s).map fun (chars, rest) => (String.ofList chars, rest)) = .ok (text, r) ↔
      ∃ units, Characters units s r ∧ unitsText? units = some text := by
  rw [map_eq_ok_iff]
  constructor
  · rintro ⟨⟨chars, r'⟩, scanned, same⟩
    cases same
    exact ⟨_, scanString_eq_ok_iff.1 scanned, unitsText?_eq_some_iff.2 (by rw [unitsOf, String.toList_ofList])⟩
  · rintro ⟨units, chars, decoded⟩
    rw [← unitsText?_eq_some_iff.1 decoded] at chars
    exact ⟨(text.toList, r), scanString_eq_ok_iff.2 chars, congrArg (·, r) String.ofList_toList⟩

/-- A reader of lists and a reader of records, of which the first character of the value chooses one. -/
theorem reads_of_list_of_record {decode : JsonTree → Option α} {asList asRecord : List Char → Except Fault (α × List Char)}
    {ended : Fault} {other : List Char → Fault}
    (list : ∀ s a r, asList s = .ok (a, r) ↔
      ∃ trees, Spells (.elements true trees) s r ∧ decode (.list trees) = some a)
    (record : ∀ s a r, asRecord s = .ok (a, r) ↔
      ∃ members, Spells (.members true members) s r ∧ decode (.record members) = some a)
    (only : ∀ tree a, decode tree = some a →
      (∃ trees, tree = .list trees) ∨ ∃ members, tree = .record members) :
    Reads (fun s =>
      match skipBlanks s with
      | [] => .error ended
      | c :: r =>
        if c = '[' then asList r else if c = '\x7b' then asRecord r else .error (other (c :: r))) decode := by
  intro s a r
  dsimp only
  constructor
  · intro h
    split at h
    · cases h
    rename_i c t found
    split_ifs at h with bracket brace
    · obtain ⟨trees, inside, decoded⟩ := (list _ _ _).1 h
      exact ⟨.list trees, .spaced (gap_of_skipBlanks_eq (bracket ▸ found)) (.list inside), decoded⟩
    · obtain ⟨members, inside, decoded⟩ := (record _ _ _).1 h
      exact ⟨.record members, .spaced (gap_of_skipBlanks_eq (brace ▸ found)) (.record inside), decoded⟩
  · rintro ⟨tree, spelled, decoded⟩
    have bare := spells_spaced_iff.1 spelled
    rcases only tree a decoded with ⟨trees, rfl⟩ | ⟨members, rfl⟩
    · obtain ⟨t, opened, inside⟩ := spells_list_iff.1 bare
      rw [opened]
      exact (list _ _ _).2 ⟨trees, inside, decoded⟩
    · obtain ⟨t, opened, inside⟩ := spells_record_iff.1 bare
      rw [opened]
      exact (record _ _ _).2 ⟨members, inside, decoded⟩

theorem nextKey_eq_ok_none_iff : nextKey first s = .ok (none, r) ↔ Gap s ('\x7d' :: r) := by
  unfold nextKey
  constructor
  · intro h
    split at h
    · cases h
    rename_i c t found
    split_ifs at h with close start quote comma
    · cases h
      exact gap_of_skipBlanks_eq (close ▸ found)
    · obtain ⟨_, -, same⟩ := map_eq_ok_iff.1 h
      cases same
    · split at h
      · cases h
      split_ifs at h
      obtain ⟨_, -, same⟩ := map_eq_ok_iff.1 h
      cases same
  · intro gap
    rw [gap.skipBlanks_eq_cons (by decide)]
    rfl

theorem scanKey_eq_ok_iff {key : String} :
    scanKey s = .ok (some key, r) ↔ ∃ units, Characters units s r ∧ unitsText? units = some key := by
  rw [← scannedText_eq_ok_iff, scanKey, map_eq_ok_iff, map_eq_ok_iff]
  constructor
  · rintro ⟨found, scanned, same⟩
    cases same
    exact ⟨found, scanned, rfl⟩
  · rintro ⟨found, scanned, same⟩
    cases same
    exact ⟨found, scanned, rfl⟩

theorem nextKey_eq_ok_some_iff {key : String} :
    nextKey first s = .ok (some key, r) ↔
      ∃ t u units, Joint first s t ∧ Gap t ('"' :: u) ∧ Characters units u r ∧
        unitsText? units = some key := by
  unfold nextKey
  constructor
  · intro h
    split at h
    · cases h
    rename_i c t found
    split_ifs at h with close start quote comma
    · cases h
    · cases start
      obtain ⟨units, chars, named⟩ := scanKey_eq_ok_iff.1 h
      exact ⟨s, t, units, rfl, gap_of_skipBlanks_eq (quote ▸ found), chars, named⟩
    · split at h
      · cases h
      rename_i d u found'
      split_ifs at h with quote
      obtain ⟨units, chars, named⟩ := scanKey_eq_ok_iff.1 h
      rw [Bool.not_eq_true] at start
      cases start
      exact ⟨t, u, units, gap_of_skipBlanks_eq (comma ▸ found), gap_of_skipBlanks_eq (quote ▸ found'),
        chars, named⟩
  · rintro ⟨t, u, units, joint, quote, chars, named⟩
    have key := scanKey_eq_ok_iff.2 ⟨units, chars, named⟩
    cases first with
    | true =>
      obtain rfl : s = t := joint
      rw [quote.skipBlanks_eq_cons (by decide)]
      exact key
    | false =>
      rw [Gap.skipBlanks_eq_cons joint (by decide)]
      dsimp only
      rw [if_neg (by decide), if_neg (by decide), if_pos rfl, quote.skipBlanks_eq_cons (by decide)]
      exact key

/-- What members of a shape give, told by their trees. A member that is passed over must be followed by
something that ends it. -/
structure RecordShape.Reads (shape : RecordShape σ) (absorb : σ → String → JsonTree → Option σ) : Prop where
  sound : ∀ {given given' key s r}, shape.member given key s = .ok (given', r) →
    ∃ t tree, Gap s (':' :: t) ∧ Spells (.spaced tree) t r ∧ absorb given key tree = some given'
  complete : ∀ {given given' key s t r tree}, Gap s (':' :: t) → Spells (.spaced tree) t r →
    NumeralStops r → absorb given key tree = some given' → shape.member given key s = .ok (given', r)

/-- The members taken one after another, the keys of which must all be texts. -/
def absorbAll (absorb : σ → String → JsonTree → Option σ) (given : σ) :
    List (List UInt16 × JsonTree) → Option σ
  | [] => some given
  | (key, tree) :: members =>
    (unitsText? key).bind fun name => (absorb given name tree).bind fun given' =>
      absorbAll absorb given' members

theorem absorbAll_cons_eq_some_iff {absorb : σ → String → JsonTree → Option σ} {given result : σ}
    {key : List UInt16} {tree : JsonTree} {members : List (List UInt16 × JsonTree)} :
    absorbAll absorb given ((key, tree) :: members) = some result ↔
      ∃ name given', unitsText? key = some name ∧ absorb given name tree = some given' ∧
        absorbAll absorb given' members = some result := by
  rw [absorbAll, Option.bind_eq_some_iff]
  simp only [Option.bind_eq_some_iff]
  constructor
  · rintro ⟨name, named, given', absorbed, rest⟩
    exact ⟨name, given', named, absorbed, rest⟩
  · rintro ⟨name, given', named, absorbed, rest⟩
    exact ⟨name, named, given', absorbed, rest⟩

/-- Taking members one after another is any relation that takes one member and then the others. -/
theorem absorbAll_eq_some_iff {absorb : σ → String → JsonTree → Option σ}
    (After : σ → List (String × JsonTree) → σ → Prop)
    (nil : ∀ given result, After given [] result ↔ given = result)
    (cons : ∀ given name tree members result, After given ((name, tree) :: members) result ↔
      ∃ given', absorb given name tree = some given' ∧ After given' members result)
    {given result : σ} {members : List (List UInt16 × JsonTree)} :
    absorbAll absorb given members = some result ↔
      ∃ named, namedMembers? members = some named ∧ After given named result := by
  induction members generalizing given with
  | nil =>
    constructor
    · intro h
      exact ⟨[], rfl, (nil _ _).2 (Option.some.inj h)⟩
    · rintro ⟨named, found, after⟩
      cases found
      exact congrArg some ((nil _ _).1 after)
  | cons member members ih =>
    obtain ⟨key, tree⟩ := member
    rw [absorbAll_cons_eq_some_iff]
    simp only [namedMembers?_cons_eq_some_iff]
    constructor
    · rintro ⟨name, given', isText, absorbed, all⟩
      obtain ⟨rest, found, after⟩ := ih.1 all
      exact ⟨_, ⟨name, rest, isText, found, rfl⟩, (cons _ _ _ _ _).2 ⟨given', absorbed, after⟩⟩
    · rintro ⟨_, ⟨name, rest, isText, found, rfl⟩, after⟩
      obtain ⟨given', absorbed, later⟩ := (cons _ _ _ _ _).1 after
      exact ⟨name, given', isText, absorbed, ih.2 ⟨rest, found, later⟩⟩

variable {shape : RecordShape σ} {absorb : σ → String → JsonTree → Option σ} {given given' : σ}

private theorem RecordShape.Reads.scan_sound (reads : shape.Reads absorb)
    (h : shape.scan first given s = .ok (given', r)) :
    ∃ members, Spells (.members first members) s r ∧ absorbAll absorb given members = some given' := by
  fun_induction RecordShape.scan shape first given s with
  | case1 => cases h
  | case2 first given s r' key =>
    cases h
    exact ⟨[], .endOfRecord (nextKey_eq_ok_none_iff.1 (within_eq_ok_iff.1 key)), rfl⟩
  | case3 => cases h
  | case4 first given s key t hkey given₁ u member ih =>
    obtain ⟨v, w, units, joint, quote, name, named⟩ := nextKey_eq_ok_some_iff.1 (within_eq_ok_iff.1 hkey)
    obtain ⟨x, tree, colon, value, absorbed⟩ := reads.sound member
    obtain ⟨members, rest, all⟩ := ih h
    exact ⟨(units, tree) :: members, .member joint quote name colon value rest,
      absorbAll_cons_eq_some_iff.2 ⟨key, given₁, named, absorbed, all⟩⟩

private theorem RecordShape.Reads.scan_complete (reads : shape.Reads absorb)
    {members : List (List UInt16 × JsonTree)} (spelled : Spells (.members first members) s r)
    (all : absorbAll absorb given members = some given') :
    shape.scan first given s = .ok (given', r) := by
  induction members generalizing first given s with
  | nil =>
    cases all
    cases spelled with
    | endOfRecord gap => exact RecordShape.scan_of_end (nextKey_eq_ok_none_iff.2 gap)
  | cons member members ih =>
    cases spelled with
    | member joint quote name colon value rest =>
      obtain ⟨text, given₁, named, absorbed, later⟩ := absorbAll_cons_eq_some_iff.1 all
      have key := nextKey_eq_ok_some_iff.2 ⟨_, _, _, joint, quote, name, named⟩
      rw [RecordShape.scan_of_key key
        (reads.complete colon value rest.numeralStops_of_members absorbed)]
      exact ih rest later

theorem RecordShape.Reads.scan_eq_ok_iff (reads : shape.Reads absorb) :
    shape.scan first given s = .ok (given', r) ↔
      ∃ members, Spells (.members first members) s r ∧ absorbAll absorb given members = some given' :=
  ⟨reads.scan_sound, fun ⟨_, spelled, all⟩ => reads.scan_complete spelled all⟩

theorem nextElement_eq_ok_false_iff {first : Bool} :
    nextElement first s = .ok (false, r) ↔ Gap s (']' :: r) := by
  unfold nextElement
  constructor
  · intro h
    split at h
    · cases h
    rename_i c t found
    split_ifs at h with close start comma
    · cases h
      exact gap_of_skipBlanks_eq (close ▸ found)
    · cases h
    · split at h
      · cases h
      split_ifs at h
      cases h
  · intro gap
    rw [gap.skipBlanks_eq_cons (by decide)]
    rfl

theorem joint_of_nextElement {first : Bool} (h : nextElement first s = .ok (true, r)) :
    ∃ t, Joint first s t ∧ r = skipBlanks t := by
  unfold nextElement at h
  split at h
  · cases h
  rename_i c t found
  split_ifs at h with close start comma
  · cases h
  · cases h
    cases start
    exact ⟨s, rfl, found.symm⟩
  · split at h
    · cases h
    rename_i d u found'
    split_ifs at h
    cases h
    rw [Bool.not_eq_true] at start
    cases start
    exact ⟨t, gap_of_skipBlanks_eq (comma ▸ found), found'.symm⟩

/-- The next element may begin with anything but a blank or the end of the list. -/
theorem Joint.nextElement_eq_cons {first : Bool} {c : Char} (joint : Joint first s t) (gap : Gap t (c :: r))
    (dark : isBlank c = false ∧ c ≠ ']') : nextElement first s = .ok (true, c :: r) := by
  unfold nextElement
  cases first with
  | true =>
    obtain rfl : s = t := joint
    rw [gap.skipBlanks_eq_cons dark.1]
    dsimp only
    rw [if_neg dark.2]
    rfl
  | false =>
    rw [Gap.skipBlanks_eq_cons joint (by decide)]
    dsimp only
    rw [if_neg (by decide), if_neg (by decide), if_pos rfl, gap.skipBlanks_eq_cons dark.1]
    exact if_neg dark.2

theorem Joint.nextElement_eq {first : Bool} {tree : JsonTree} (joint : Joint first s t)
    (value : Spells (.spaced tree) t r) : nextElement first s = .ok (true, skipBlanks t) := by
  obtain ⟨c, u, found, bare⟩ := value.opens
  rw [found]
  exact joint.nextElement_eq_cons (gap_of_skipBlanks_eq found) bare.dark

theorem closeList_eq_ok_iff : closeList s = .ok r ↔ Gap s (']' :: r) := by
  unfold closeList
  constructor
  · intro h
    split at h
    · cases h
    rename_i c t found
    split_ifs at h with close comma
    · cases h
      exact gap_of_skipBlanks_eq (close ▸ found)
    · split at h <;> cases h
  · intro gap
    rw [gap.skipBlanks_eq_cons (by decide)]
    rfl

end CollectionGlue
