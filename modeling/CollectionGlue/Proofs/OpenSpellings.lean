import CollectionGlue.Proofs.StreamedTables

/-! # Records and lists read up to a place inside them

The parts of a record or a list are read one after another. What a reader has given at a place between them is
decided by the parts before it; the text behind the place may be anything, and nothing need ever be closed.
-/
namespace CollectionGlue

/-- The next key of a record, up to and with its closing quote. -/
def KeyAt (first : Bool) (key : String) (s r : List Char) : Prop :=
  ∃ t u, Joint first s t ∧ Gap t ('"' :: u) ∧ Characters (unitsOf key) u r

/-- Members from behind the brace of a record (`first`) or behind one of its members, up to a place where
the record is still open. Their keys are texts, in any spelling; half of a surrogate pair alone names nothing. -/
inductive OpenMembers : Bool → List (String × JsonTree) → List Char → List Char → Prop
  | stop (first : Bool) (s : List Char) : OpenMembers first [] s s
  | member {first : Bool} {key : String} {tree : JsonTree} {members : List (String × JsonTree)}
      {s t u v r : List Char} (name : KeyAt first key s t) (colon : Gap t (':' :: u))
      (value : Spells (.spaced tree) u v) (rest : OpenMembers false members v r) :
      OpenMembers first ((key, tree) :: members) s r

/-- Elements from behind the bracket of a list (`first`) or behind one of its elements, up to a place where
the list is still open. -/
inductive OpenElements : Bool → List JsonTree → List Char → List Char → Prop
  | stop (first : Bool) (s : List Char) : OpenElements first [] s s
  | element {first : Bool} {tree : JsonTree} {trees : List JsonTree} {s t u r : List Char}
      (joint : Joint first s t) (value : Spells (.spaced tree) t u) (rest : OpenElements false trees u r) :
      OpenElements first (tree :: trees) s r

variable {σ : Type} {s r : List Char} {first : Bool} {key : String}

theorem KeyAt.nextKey_eq (h : KeyAt first key s r) : nextKey first s = .ok (some key, r) := by
  obtain ⟨t, u, joint, quote, chars⟩ := h
  exact nextKey_eq_ok_some_iff.2 ⟨t, u, _, joint, quote, chars, unitsText?_eq_some_iff.2 rfl⟩

theorem Joint.numeralStops (h : Joint false s r) : NumeralStops s :=
  Gap.numeralStops h (numeralStops_cons (.inl rfl) _)

theorem KeyAt.numeralStops (h : KeyAt false key s r) : NumeralStops s := by
  obtain ⟨t, u, joint, -⟩ := h
  exact joint.numeralStops

private theorem characters_written (text : String) (r : List Char) :
    Characters (unitsOf text) (text.toList.flatMap escapedJson ++ '"' :: r) r :=
  scanString_eq_ok_iff.1 (scanString_flatMap_escapedJson text.toList r)

theorem keyAt_first (key : String) (r : List Char) : KeyAt true key (jsonStringChars key.toList ++ r) r :=
  ⟨_, _, rfl, jsonStringChars_append _ _ ▸ .refl _, characters_written key r⟩

theorem keyAt_later (key : String) (r : List Char) :
    KeyAt false key (',' :: (jsonStringChars key.toList ++ r)) r :=
  ⟨_, _, .refl _, jsonStringChars_append _ _ ▸ .refl _, characters_written key r⟩

theorem spells_written (text : String) (r : List Char) :
    Spells (.spaced (.string (unitsOf text))) (jsonStringChars text.toList ++ r) r :=
  .spaced (jsonStringChars_append _ _ ▸ .refl _) (.string (characters_written text r))

/-- The members with the code units of their keys. -/
def encodedMembers (members : List (String × JsonTree)) : List (List UInt16 × JsonTree) :=
  members.map fun (key, tree) => (unitsOf key, tree)

theorem namedMembers?_encodedMembers (members : List (String × JsonTree)) :
    namedMembers? (encodedMembers members) = some members := by
  induction members with
  | nil => rfl
  | cons member members ih =>
    exact namedMembers?_cons_eq_some_iff.2 ⟨member.1, members, unitsText?_eq_some_iff.2 rfl, ih, rfl⟩

variable {shape : RecordShape σ} {absorb : σ → String → JsonTree → Option σ} {given given' : σ}
  {members : List (String × JsonTree)}

/-- Reading a record comes to every place between its members, with what the members before it give. A
numeral before the place must end there. -/
theorem RecordShape.Reads.scan_open (reads : shape.Reads absorb) (spelled : OpenMembers first members s r)
    (all : absorbAll absorb given (encodedMembers members) = some given')
    (stop : (first && members.isEmpty) = false → NumeralStops r) :
    shape.scan first given s = shape.scan (first && members.isEmpty) given' r := by
  induction spelled generalizing given with
  | stop first s =>
    cases all
    rw [List.isEmpty_nil, Bool.and_true]
  | @member first key tree members s t u v r name colon value rest ih =>
    obtain ⟨text, given₁, named, absorbed, later⟩ := absorbAll_cons_eq_some_iff.1 all
    obtain rfl : text = key := Option.some.inj (named.symm.trans (unitsText?_eq_some_iff.2 rfl))
    have open₁ : (first && ((text, tree) :: members).isEmpty) = false := Bool.and_false first
    -- The value ends before the comma of the next member; only the last one needs the hypothesis.
    have stop₁ : NumeralStops v := by
      cases rest with
      | stop => exact stop open₁
      | member name => exact name.numeralStops
    rw [RecordShape.scan_of_key name.nextKey_eq (reads.complete colon value stop₁ absorbed), open₁]
    exact ih later fun _ => stop open₁

/-- Reading a list of entries comes to every place between its elements. -/
theorem scanEntriesFrom_open {trees : List JsonTree} {index : Nat} {entries : List TypeEntry}
    (spelled : OpenElements (index == 0) trees s r) (all : trees.mapM JsonTree.entryValue? = some entries) :
    scanEntriesFrom index s =
      (scanEntriesFrom (index + trees.length) r).map fun (later, rest) => (entries ++ later, rest) := by
  induction trees generalizing index s entries with
  | nil =>
    cases all
    cases spelled
    exact (congrFun Except.map_id _).symm
  | cons tree trees ih =>
    obtain ⟨entry, entries', decoded, later, rfl⟩ := mapM_cons_eq_some_iff.1 all
    cases spelled with
    | element joint value rest =>
      have scanned := (reads_scanEntry _ _ _).2 ⟨tree, spells_spaced_skipBlanks.2 value, decoded⟩
      have behind : OpenElements (index + 1 == 0) trees _ r := rest
      have place : index + 1 + trees.length = index + (tree :: trees).length := by
        rw [List.length_cons]
        omega
      rw [scanEntriesFrom_of_entry index (joint.nextElement_eq value) scanned, ih behind later, place]
      cases scanEntriesFrom (index + (tree :: trees).length) r <;> rfl

end CollectionGlue
