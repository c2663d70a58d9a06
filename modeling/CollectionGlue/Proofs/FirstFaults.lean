import CollectionGlue.GeneratedFunctions
import CollectionGlue.Proofs.SpellingLanguages
import Mathlib.Data.List.Nodup

/-! # Which lists of entries make a table, and which fault is reported of the others

Both are said without the loops of the check: a table is a list under conditions that do not look at
the order of its entries, and the fault of any other list is found at the least index of an entry that
is at fault, or else in the sequence of the constructors that the list would generate.
-/
namespace CollectionGlue

structure TypeEntry.Valid (e : TypeEntry) : Prop where
  identifier : IdentifierText e.tag.toList
  spelling : TypeSpelling e.spelling.toList

theorem TypeEntry.isValid_iff (e : TypeEntry) : e.isValid = true ↔ e.Valid := by
  rw [TypeEntry.isValid, Bool.and_eq_true, TypeEntry.hasIdentifierTag, TypeEntry.hasTypeSpelling,
    isIdentifier_iff, isTypeSpelling_iff]
  exact ⟨fun h => ⟨h.1, h.2⟩, fun h => ⟨h.identifier, h.spelling⟩⟩

/-- The conditions on a table; the last says that a constructor's name tells its key and value. -/
structure MakesTable (entries : List TypeEntry) : Prop where
  nonempty : entries ≠ []
  valid : ∀ e ∈ entries, e.Valid
  distinct : entries.Pairwise fun a b => a.tag ≠ b.tag
  injective : ∀ key ∈ entries, ∀ value ∈ entries, ∀ key' ∈ entries, ∀ value' ∈ entries,
    constructorSymbol key.tag value.tag = constructorSymbol key'.tag value'.tag →
      key = key' ∧ value = value'

/-- The fault of an entry that stands behind the entries `before`. -/
inductive EntryFault (before : List TypeEntry) (e : TypeEntry) : TableRejection → Prop
  | invalidTag (tag : ¬IdentifierText e.tag.toList) : EntryFault before e (.invalidTag e.tag)
  | invalidSpelling (tag : IdentifierText e.tag.toList) (spelling : ¬TypeSpelling e.spelling.toList) :
      EntryFault before e (.invalidSpelling e.tag e.spelling)
  | repeatedTag (valid : e.Valid) (again : ∃ a ∈ before, a.tag = e.tag) :
      EntryFault before e (.repeatedTag e.tag)

/-- The fault of the entry at an index. -/
def FaultAt (entries : List TypeEntry) (i : Nat) (fault : TableRejection) : Prop :=
  ∃ e, entries[i]? = some e ∧ EntryFault (entries.take i) e fault

/-- The constructors that a list of entries would generate, the key in the outer loop. -/
def emittedConstructors (entries : List TypeEntry) : List CFunction :=
  entries.flatMap fun key => entries.map fun value => dictionaryConstructor key.tag value.tag

/-- The fault that is reported of a list of entries. -/
inductive FirstFault (entries : List TypeEntry) : TableRejection → Prop
  | ofEntry {i : Nat} {fault : TableRejection} (least : ∀ j < i, ∀ f, ¬FaultAt entries j f)
      (here : FaultAt entries i fault) : FirstFault entries fault
  | noEntries (empty : entries = []) : FirstFault entries .noEntries
  | collision {earlier later : List String} {name : String} (sound : ∀ i f, ¬FaultAt entries i f)
      (emitted : (emittedConstructors entries).map (·.name) = earlier ++ name :: later)
      (distinct : earlier.Nodup) (again : name ∈ earlier) :
      FirstFault entries (.collidingConstructors name)

theorem entryRejection?_eq_some_iff {seen : List String} {before : List TypeEntry}
    (same : ∀ tag, tag ∈ seen ↔ ∃ a ∈ before, a.tag = tag) (e : TypeEntry) (fault : TableRejection) :
    entryRejection? seen e = some fault ↔ EntryFault before e fault := by
  have identifier : e.hasIdentifierTag = false ↔ ¬IdentifierText e.tag.toList := by
    rw [← isIdentifier_iff, Bool.not_eq_true]
    rfl
  have spelling : e.hasTypeSpelling = false ↔ ¬TypeSpelling e.spelling.toList := by
    rw [← isTypeSpelling_iff, Bool.not_eq_true]
    rfl
  unfold entryRejection?
  constructor
  · intro h
    split_ifs at h with badTag badSpelling again <;> cases h
    · exact .invalidTag (identifier.1 badTag)
    · exact .invalidSpelling (not_not.1 (mt identifier.2 badTag)) (spelling.1 badSpelling)
    · exact .repeatedTag ⟨not_not.1 (mt identifier.2 badTag), not_not.1 (mt spelling.2 badSpelling)⟩
        ((same _).1 again)
  · intro h
    cases h with
    | invalidTag badTag => rw [if_pos (identifier.2 badTag)]
    | invalidSpelling tag badSpelling =>
      rw [if_neg (mt identifier.1 (not_not.2 tag)), if_pos (spelling.2 badSpelling)]
    | repeatedTag valid again =>
      rw [if_neg (mt identifier.1 (not_not.2 valid.identifier)),
        if_neg (mt spelling.1 (not_not.2 valid.spelling)), if_pos ((same _).2 again)]

/-- The tags that have been seen before the entry at an index. -/
def seenBefore (seen : List String) (entries : List TypeEntry) (i : Nat) : List String :=
  (tagsOf (entries.take i)).reverse ++ seen

private theorem seenBefore_zero (seen : List String) (entries : List TypeEntry) :
    seenBefore seen entries 0 = seen := rfl

private theorem seenBefore_succ (seen : List String) (e : TypeEntry) (rest : List TypeEntry) (i : Nat) :
    seenBefore seen (e :: rest) (i + 1) = seenBefore (e.tag :: seen) rest i := by
  simp [seenBefore, tagsOf]

private theorem mem_seenBefore_nil (entries : List TypeEntry) (i : Nat) (tag : String) :
    tag ∈ seenBefore [] entries i ↔ ∃ a ∈ entries.take i, a.tag = tag := by
  simp [seenBefore, tagsOf, -List.map_take]

theorem firstEntryRejection?_eq_some_iff (seen : List String) (entries : List TypeEntry)
    (fault : TableRejection) :
    firstEntryRejection? seen entries = some fault ↔
      ∃ i e, entries[i]? = some e ∧ entryRejection? (seenBefore seen entries i) e = some fault ∧
        ∀ j < i, ∀ a, entries[j]? = some a → entryRejection? (seenBefore seen entries j) a = none := by
  induction entries generalizing seen with
  | nil => simp [firstEntryRejection?]
  | cons e rest ih =>
    rw [firstEntryRejection?]
    cases h : entryRejection? seen e with
    | some first =>
      simp only [Option.some.injEq]
      constructor
      · rintro rfl
        exact ⟨0, e, rfl, h, by simp⟩
      · rintro ⟨i, a, at_i, found, least⟩
        cases i with
        | zero =>
          cases at_i
          rw [seenBefore_zero, h] at found
          exact Option.some.inj found
        | succ i => exact absurd (least 0 (by omega) e rfl) (by simp [seenBefore_zero, h])
    | none =>
      simp only [ih]
      constructor
      · rintro ⟨i, a, at_i, found, least⟩
        refine ⟨i + 1, a, at_i, by rwa [seenBefore_succ], fun j below b at_j => ?_⟩
        cases j with
        | zero => cases at_j; exact h
        | succ j =>
          rw [seenBefore_succ]
          exact least j (by omega) b at_j
      · rintro ⟨i, a, at_i, found, least⟩
        cases i with
        | zero => cases at_i; simp [seenBefore_zero, h] at found
        | succ i =>
          refine ⟨i, a, at_i, by rwa [seenBefore_succ] at found, fun j below b at_j => ?_⟩
          have := least (j + 1) (by omega) b at_j
          rwa [seenBefore_succ] at this

private theorem entryRejection?_seenBefore {entries : List TypeEntry} {i : Nat} {e : TypeEntry}
    (at_i : entries[i]? = some e) (fault : TableRejection) :
    entryRejection? (seenBefore [] entries i) e = some fault ↔ FaultAt entries i fault := by
  rw [entryRejection?_eq_some_iff (mem_seenBefore_nil entries i)]
  constructor
  · exact fun h => ⟨e, at_i, h⟩
  · rintro ⟨a, at_a, h⟩
    rw [at_i] at at_a
    cases at_a
    exact h

/-- The loop over the entries stops at the least index that is at fault. -/
theorem firstEntryRejection?_eq_some_iff_least (entries : List TypeEntry) (fault : TableRejection) :
    firstEntryRejection? [] entries = some fault ↔
      ∃ i, FaultAt entries i fault ∧ ∀ j < i, ∀ f, ¬FaultAt entries j f := by
  rw [firstEntryRejection?_eq_some_iff]
  constructor
  · rintro ⟨i, e, at_i, found, least⟩
    refine ⟨i, (entryRejection?_seenBefore at_i fault).1 found, fun j below f h => ?_⟩
    obtain ⟨a, at_j, -⟩ := id h
    have := (entryRejection?_seenBefore at_j f).2 h
    simp [least j below a at_j] at this
  · rintro ⟨i, h, least⟩
    obtain ⟨e, at_i, -⟩ := id h
    refine ⟨i, e, at_i, (entryRejection?_seenBefore at_i fault).2 h, fun j below a at_j => ?_⟩
    cases found : entryRejection? (seenBefore [] entries j) a with
    | none => rfl
    | some f => exact absurd ((entryRejection?_seenBefore at_j f).1 found) (least j below f)

private theorem firstEntryRejection?_eq_none_iff_sound (entries : List TypeEntry) :
    firstEntryRejection? [] entries = none ↔ ∀ i f, ¬FaultAt entries i f := by
  constructor
  · intro passed i
    induction i using Nat.strongRecOn with
    | _ i least =>
      intro f h
      have := (firstEntryRejection?_eq_some_iff_least entries f).2 ⟨i, h, least⟩
      simp [passed] at this
  · intro sound
    cases found : firstEntryRejection? [] entries with
    | none => rfl
    | some fault =>
      obtain ⟨i, h, -⟩ := (firstEntryRejection?_eq_some_iff_least entries fault).1 found
      exact absurd h (sound i fault)

private theorem names_emittedConstructors (entries : List TypeEntry) :
    (emittedConstructors entries).map (·.name) = constructorSymbols (tagsOf entries) := by
  simp [emittedConstructors, constructorSymbols, orderedPairs, dictionaryConstructor, tagsOf,
    List.map_flatMap, List.flatMap_map, Function.comp_def]

private theorem emittedConstructors_entries (t : TypeTable) :
    emittedConstructors t.entries = dictionaryConstructors t := by
  simp [emittedConstructors, dictionaryConstructors, orderedPairs, TypeTable.tags, tagsOf,
    List.map_flatMap, List.flatMap_map, Function.comp_def]

theorem firstRepeat_eq_some_iff (seen : Std.HashSet String) (items : List String) (a : String) :
    firstRepeat seen items = some a ↔
      ∃ earlier later, items = earlier ++ a :: later ∧ earlier.Nodup ∧ (∀ b ∈ earlier, b ∉ seen) ∧
        (a ∈ earlier ∨ a ∈ seen) := by
  induction items generalizing seen with
  | nil => simp [firstRepeat]
  | cons first rest ih =>
    rw [firstRepeat]
    split
    · rename_i h
      have known := Std.HashSet.contains_iff_mem.1 h
      constructor
      · intro same
        cases same
        exact ⟨[], rest, rfl, List.nodup_nil, by simp, .inr known⟩
      · rintro ⟨earlier, later, split, -, fresh, -⟩
        cases earlier with
        | nil => cases split; rfl
        | cons b earlier => cases split; exact absurd known (fresh first (by simp))
    · rename_i h
      have new : first ∉ seen := fun mem => h (Std.HashSet.contains_iff_mem.2 mem)
      rw [ih]
      constructor
      · rintro ⟨earlier, later, rfl, distinct, fresh, again⟩
        refine ⟨first :: earlier, later, rfl, List.nodup_cons.2 ⟨?_, distinct⟩, ?_, ?_⟩
        · exact fun mem => fresh first mem (mem_insert_iff.2 (.inl rfl))
        · intro b mem known
          rcases List.mem_cons.1 mem with rfl | mem
          · exact new known
          · exact fresh b mem (mem_insert_iff.2 (.inr known))
        · rw [List.mem_cons, or_assoc, or_left_comm, ← mem_insert_iff]
          exact again
      · rintro ⟨earlier, later, split, distinct, fresh, again⟩
        cases earlier with
        | nil =>
          cases split
          exact absurd (again.resolve_left List.not_mem_nil) new
        | cons b earlier =>
          cases split
          obtain ⟨apart, distinct⟩ := List.nodup_cons.1 distinct
          refine ⟨earlier, later, rfl, distinct, fun b mem known => ?_, ?_⟩
          · rcases mem_insert_iff.1 known with rfl | known
            · exact apart mem
            · exact fresh b (List.mem_cons_of_mem first mem) known
          · rw [mem_insert_iff, or_left_comm, ← or_assoc, ← List.mem_cons]
            exact again

private theorem orderedPairs_eq_product {α : Type} (items : List α) : orderedPairs items = items.product items :=
  rfl

theorem mem_orderedPairs {α : Type} {items : List α} {a b : α} :
    (a, b) ∈ orderedPairs items ↔ a ∈ items ∧ b ∈ items := by
  rw [orderedPairs_eq_product]
  exact List.pair_mem_product

theorem nodup_constructorSymbols_iff {tags : List String} (distinct : tags.Nodup) :
    (constructorSymbols tags).Nodup ↔
      ∀ key ∈ tags, ∀ value ∈ tags, ∀ key' ∈ tags, ∀ value' ∈ tags,
        constructorSymbol key value = constructorSymbol key' value' → key = key' ∧ value = value' := by
  have pairs : (orderedPairs tags).Nodup := distinct.product distinct
  constructor
  · intro names key hk value hv key' hk' value' hv' same
    have := List.inj_on_of_nodup_map names (mem_orderedPairs.2 ⟨hk, hv⟩) (mem_orderedPairs.2 ⟨hk', hv'⟩) same
    exact Prod.mk.inj this
  · intro injective
    refine pairs.map_on fun p hp q hq same => ?_
    obtain ⟨hk, hv⟩ := mem_orderedPairs.1 hp
    obtain ⟨hk', hv'⟩ := mem_orderedPairs.1 hq
    exact Prod.ext_iff.2 (injective _ hk _ hv _ hk' _ hv' same)

/-- In a list without a repeated tag the tag determines the entry. -/
theorem eq_of_tag_eq {entries : List TypeEntry} (distinct : (tagsOf entries).Nodup) {a b : TypeEntry}
    (ha : a ∈ entries) (hb : b ∈ entries) (same : a.tag = b.tag) : a = b :=
  List.inj_on_of_nodup_map distinct ha hb same

theorem acceptable_iff (entries : List TypeEntry) : Acceptable entries ↔ MakesTable entries := by
  have tags : (tagsOf entries).Nodup ↔ entries.Pairwise fun a b => a.tag ≠ b.tag := List.pairwise_map
  constructor
  · intro ok
    refine ⟨ok.nonempty, fun e mem => (e.isValid_iff).1 (ok.valid e mem), tags.1 ok.distinct_tags, ?_⟩
    intro key hk value hv key' hk' value' hv' same
    have injective := (nodup_constructorSymbols_iff ok.distinct_tags).1 ok.distinct_constructors
    obtain ⟨sameKey, sameValue⟩ := injective key.tag (List.mem_map_of_mem hk) value.tag
      (List.mem_map_of_mem hv) key'.tag (List.mem_map_of_mem hk') value'.tag (List.mem_map_of_mem hv') same
    exact ⟨eq_of_tag_eq ok.distinct_tags hk hk' sameKey, eq_of_tag_eq ok.distinct_tags hv hv' sameValue⟩
  · intro ok
    have distinct := tags.2 ok.distinct
    refine ⟨ok.nonempty, fun e mem => (e.isValid_iff).2 (ok.valid e mem), distinct,
      (nodup_constructorSymbols_iff distinct).2 ?_⟩
    simp only [tagsOf, List.forall_mem_map]
    intro key hk value hv key' hk' value' hv' same
    obtain ⟨sameKey, sameValue⟩ := ok.injective key hk value hv key' hk' value' hv' same
    exact ⟨congrArg _ sameKey, congrArg _ sameValue⟩

theorem firstRepeat_empty_eq_some_iff (items : List String) (a : String) :
    firstRepeat ∅ items = some a ↔
      ∃ earlier later, items = earlier ++ a :: later ∧ earlier.Nodup ∧ a ∈ earlier := by
  simp [firstRepeat_eq_some_iff]

theorem rejection?_eq_some_iff (entries : List TypeEntry) (fault : TableRejection) :
    rejection? entries = some fault ↔ FirstFault entries fault := by
  unfold rejection?
  cases checked : firstEntryRejection? [] entries with
  | some first =>
    obtain ⟨i, here, least⟩ := (firstEntryRejection?_eq_some_iff_least entries first).1 checked
    constructor
    · intro same
      cases same
      exact .ofEntry least here
    · intro h
      cases h with
      | ofEntry least' here' =>
        exact checked.symm.trans
          ((firstEntryRejection?_eq_some_iff_least entries fault).2 ⟨_, here', least'⟩)
      | noEntries empty => simp [empty, firstEntryRejection?] at checked
      | collision sound => exact absurd here (sound i first)
  | none =>
    have sound := (firstEntryRejection?_eq_none_iff_sound entries).1 checked
    by_cases empty : entries = []
    · simp only [empty, List.isEmpty_nil, ↓reduceIte]
      constructor
      · intro same
        cases same
        exact .noEntries rfl
      · intro h
        cases h with
        | ofEntry least here => obtain ⟨e, at_i, -⟩ := here; simp at at_i
        | noEntries => rfl
        | collision sound emitted => simp [emittedConstructors] at emitted
    · simp only [List.isEmpty_iff, empty, ↓reduceIte, Option.map_eq_some_iff,
        firstRepeat_empty_eq_some_iff, ← names_emittedConstructors]
      constructor
      · rintro ⟨name, ⟨earlier, later, emitted, distinct, again⟩, rfl⟩
        exact .collision sound emitted distinct again
      · intro h
        cases h with
        | ofEntry least here => exact absurd here (sound _ _)
        | noEntries none => exact absurd none empty
        | collision _ emitted distinct again => exact ⟨_, ⟨_, _, emitted, distinct, again⟩, rfl⟩

/-- A list of entries becomes a table, with the entries in the given order and one constructor for each
place of the emitted sequence, exactly under the conditions of `MakesTable`; of any other list the first
fault is reported. -/
theorem ofEntries_outcome (entries : List TypeEntry) :
    ((∃ t, TypeTable.ofEntries entries = .ok t) ↔ MakesTable entries) ∧
      (∀ t, TypeTable.ofEntries entries = .ok t →
        t.entries = entries ∧ dictionaryConstructors t = emittedConstructors entries) ∧
      ∀ fault, TypeTable.ofEntries entries = .error fault ↔ FirstFault entries fault := by
  refine ⟨?_, fun t made => ?_, fun fault => ?_⟩
  · rw [← acceptable_iff]
    constructor
    · rintro ⟨t, made⟩
      exact TypeTable.ofEntries_eq_ok_iff.1 made ▸ t.acceptable
    · exact fun ok => ⟨⟨entries, ok⟩, TypeTable.ofEntries_eq_ok_iff.2 rfl⟩
  · obtain rfl := TypeTable.ofEntries_eq_ok_iff.1 made
    exact ⟨rfl, (emittedConstructors_entries t).symm⟩
  · rw [TypeTable.ofEntries_eq_error_iff, rejection?_eq_some_iff]

end CollectionGlue
