import CollectionGlue.Proofs.FirstFaults
import CollectionGlue.Proofs.SymbolEndings

/-! # Which pairs of tags share a constructor's name

A name that two pairs share holds the joint at two places. The two joints stand clear of each other or
share one underscore; every other shift of the joint against itself puts unlike letters together.
-/
namespace CollectionGlue

/-- The joint of `key` and `value` stands before that of `key'` and `value'` in one and the same name. -/
inductive EarlierJoint (key value key' value' : String) : Prop
  | clear (middle : String) (longer : key' = key ++ "_to_" ++ middle)
      (rest : value = middle ++ "_to_" ++ value') : EarlierJoint key value key' value'
  | sharing (longer : key' = key ++ "_to") (rest : value = "to_" ++ value') : EarlierJoint key value key' value'

def nameJoint : List Char := ['_', 't', 'o', '_']

/-- What stands between the beginnings of two joints, the second one being `shift` characters behind. -/
theorem joint_shift {shift value value' : List Char} (same : nameJoint ++ value = shift ++ (nameJoint ++ value')) :
    (shift = [] ∧ value = value') ∨ (shift = ['_', 't', 'o'] ∧ value = ['t', 'o', '_'] ++ value') ∨
      ∃ middle, shift = nameJoint ++ middle ∧ value = middle ++ (nameJoint ++ value') := by
  -- A shift by one character puts `t` on `_`, a shift by two puts `o` on `_`.
  rcases shift with _ | ⟨a, _ | ⟨b, _ | ⟨c, _ | ⟨d, middle⟩⟩⟩⟩
  case nil => exact .inl ⟨rfl, by simpa using same⟩
  case cons.nil => simp [nameJoint] at same
  case cons.cons.nil => simp [nameJoint] at same
  case cons.cons.cons.nil =>
    obtain ⟨rfl, rfl, rfl, rest⟩ : '_' = a ∧ 't' = b ∧ 'o' = c ∧ value = 't' :: 'o' :: '_' :: value' := by
      simpa [nameJoint] using same
    exact .inr (.inl ⟨rfl, rest⟩)
  case cons.cons.cons.cons =>
    obtain ⟨rfl, rfl, rfl, rfl, rest⟩ :
        '_' = a ∧ 't' = b ∧ 'o' = c ∧ '_' = d ∧ value = middle ++ (nameJoint ++ value') := by
      simpa [nameJoint] using same
    exact .inr (.inr ⟨middle, rfl, rest⟩)

private theorem constructorSymbol_eq_iff_joined {key value key' value' : String} :
    constructorSymbol key value = constructorSymbol key' value' ↔
      key.toList ++ (nameJoint ++ value.toList) = key'.toList ++ (nameJoint ++ value'.toList) := by
  have joined (key value : String) : (constructorSymbol key value).toList =
      (key.toList ++ (nameJoint ++ value.toList)) ++ constructorEnding := by
    rw [toList_constructorSymbol, List.append_assoc, List.append_assoc]
    rfl
  rw [← String.toList_inj, joined, joined, List.append_cancel_right_eq]

private theorem EarlierJoint.symbol_eq {key value key' value' : String} (h : EarlierJoint key value key' value') :
    constructorSymbol key value = constructorSymbol key' value' := by
  rw [constructorSymbol_eq_iff_joined]
  cases h with
  | clear middle longer rest => simp [longer, rest, nameJoint]
  | sharing longer rest => simp [longer, rest, nameJoint]

/-- A longer key shows where its joint stands. -/
theorem earlierJoint_of_longer {key value key' value' : String} {shift : List Char}
    (longer : key'.toList = key.toList ++ shift)
    (same : nameJoint ++ value.toList = shift ++ (nameJoint ++ value'.toList)) :
    (key = key' ∧ value = value') ∨ EarlierJoint key value key' value' := by
  rcases joint_shift same with ⟨rfl, rest⟩ | ⟨rfl, rest⟩ | ⟨middle, rfl, rest⟩
  · rw [List.append_nil] at longer
    exact .inl ⟨(String.toList_inj.1 longer).symm, String.toList_inj.1 rest⟩
  · refine .inr (.sharing (String.toList_inj.1 ?_) (String.toList_inj.1 ?_))
    · simpa using longer
    · simpa using rest
  · refine .inr (.clear (String.ofList middle) (String.toList_inj.1 ?_) (String.toList_inj.1 ?_))
    · simpa [nameJoint] using longer
    · simpa [nameJoint] using rest

theorem constructorSymbol_eq_iff {key value key' value' : String} :
    constructorSymbol key value = constructorSymbol key' value' ↔
      (key = key' ∧ value = value') ∨ EarlierJoint key value key' value' ∨ EarlierJoint key' value' key value := by
  constructor
  · intro same
    rw [constructorSymbol_eq_iff_joined, List.append_eq_append_iff] at same
    rcases same with ⟨shift, longer, same⟩ | ⟨shift, longer, same⟩
    · exact (earlierJoint_of_longer longer same).imp_right .inl
    · exact (earlierJoint_of_longer longer same).imp (fun h => ⟨h.1.symm, h.2.symm⟩) .inr
  · rintro (⟨rfl, rfl⟩ | earlier | later)
    · rfl
    · exact earlier.symbol_eq
    · exact later.symbol_eq.symm

private theorem EarlierJoint.key_ne {key value key' value' : String} (h : EarlierJoint key value key' value') :
    key ≠ key' := by
  rintro rfl
  cases h with
  | clear middle longer rest => simpa using congrArg String.toList longer
  | sharing longer rest => simpa using congrArg String.toList longer

/-- Entries that are sound each for itself, no tag repeated: what remains to be checked are the names of
their constructors. -/
structure SoundEntries (entries : List TypeEntry) : Prop where
  nonempty : entries ≠ []
  valid : ∀ e ∈ entries, e.Valid
  distinct : entries.Pairwise fun a b => a.tag ≠ b.tag

theorem SoundEntries.distinct_tags {entries : List TypeEntry} (h : SoundEntries entries) : (tagsOf entries).Nodup :=
  List.pairwise_map.2 h.distinct

/-- Four tags, not necessarily different, of which two pairs share a constructor's name. -/
def TagsCollide (entries : List TypeEntry) : Prop :=
  ∃ key ∈ tagsOf entries, ∃ value ∈ tagsOf entries, ∃ key' ∈ tagsOf entries, ∃ value' ∈ tagsOf entries,
    EarlierJoint key value key' value'

private theorem nodup_constructorSymbols_iff_not_collide {entries : List TypeEntry}
    (distinct : (tagsOf entries).Nodup) : (constructorSymbols (tagsOf entries)).Nodup ↔ ¬TagsCollide entries := by
  rw [nodup_constructorSymbols_iff distinct]
  constructor
  · rintro injective ⟨key, hk, value, hv, key', hk', value', hv', earlier⟩
    exact earlier.key_ne (injective key hk value hv key' hk' value' hv' earlier.symbol_eq).1
  · intro apart key hk value hv key' hk' value' hv' same
    rcases constructorSymbol_eq_iff.1 same with pairs | earlier | later
    · exact pairs
    · exact absurd ⟨key, hk, value, hv, key', hk', value', hv', earlier⟩ apart
    · exact absurd ⟨key', hk', value', hv', key, hk, value, hv, later⟩ apart

private theorem SoundEntries.rejection?_eq {entries : List TypeEntry} (h : SoundEntries entries) :
    rejection? entries =
      (firstRepeat ∅ (constructorSymbols (tagsOf entries))).map .collidingConstructors := by
  have passed : firstEntryRejection? [] entries = none :=
    (firstEntryRejection?_eq_none_iff [] entries).2
      ⟨fun e mem => e.isValid_iff.2 (h.valid e mem), h.distinct_tags, fun _ _ => List.not_mem_nil⟩
  simp [rejection?, passed, h.nonempty]

theorem SoundEntries.ofEntries_iff {entries : List TypeEntry} (h : SoundEntries entries) :
    ((∃ name, TypeTable.ofEntries entries = .error (.collidingConstructors name)) ↔ TagsCollide entries) ∧
      ((∃ t, TypeTable.ofEntries entries = .ok t) ↔ ¬TagsCollide entries) := by
  have checked := h.rejection?_eq
  have names := (firstRepeat_eq_none_iff ∅ (constructorSymbols (tagsOf entries))).trans (and_iff_left (by simp))
  rw [nodup_constructorSymbols_iff_not_collide h.distinct_tags] at names
  simp only [TypeTable.ofEntries_eq_error_iff, checked]
  cases found : firstRepeat ∅ (constructorSymbols (tagsOf entries)) with
  | none =>
    rw [found] at checked
    have table := (rejection?_eq_none_iff entries).1 checked
    exact ⟨by simp [names.1 found],
      iff_of_true ⟨⟨entries, table⟩, TypeTable.ofEntries_eq_ok_iff.2 rfl⟩ (names.1 found)⟩
  | some name =>
    rw [found] at checked
    have collide : TagsCollide entries := not_not.1 (mt names.2 (by simp [found]))
    refine ⟨iff_of_true ⟨name, rfl⟩ collide, iff_of_false ?_ (not_not.2 collide)⟩
    rintro ⟨t, made⟩
    rw [TypeTable.ofEntries_eq_error_iff.2 checked] at made
    cases made

private theorem not_collide_of_no_joint {entries : List TypeEntry}
    (free : ∀ tag ∈ tagsOf entries, ¬"_to_".toList <:+: tag.toList ∧ ¬"_to".toList <:+ tag.toList) :
    ¬TagsCollide entries := by
  rintro ⟨key, -, value, -, key', hk', value', -, earlier⟩
  cases earlier with
  | clear middle longer rest =>
    refine (free key' hk').1 ⟨key.toList, middle.toList, ?_⟩
    rw [longer, String.toList_append, String.toList_append]
  | sharing longer rest =>
    refine (free key' hk').2 ⟨key.toList, ?_⟩
    rw [longer, String.toList_append]

/-- Two pairs share a constructor's name exactly if they are the same pair or the joint of one stands before
that of the other, clear of it or sharing an underscore. Sound entries with distinct tags are rejected for
their constructors' names exactly if four of the tags stand so to each other, which takes a tag that holds
the joint or ends in `_to`. -/
theorem collidingConstructors_iff :
    (∀ key value key' value' : String, constructorSymbol key value = constructorSymbol key' value' ↔
      (key, value) = (key', value') ∨ EarlierJoint key value key' value' ∨ EarlierJoint key' value' key value) ∧
    ∀ entries : List TypeEntry, SoundEntries entries →
      ((∃ name, TypeTable.ofEntries entries = .error (.collidingConstructors name)) ↔ TagsCollide entries) ∧
      ((∀ tag ∈ tagsOf entries, ¬"_to_".toList <:+: tag.toList ∧ ¬"_to".toList <:+ tag.toList) →
        ∃ t, TypeTable.ofEntries entries = .ok t) := by
  constructor
  · intro key value key' value'
    rw [constructorSymbol_eq_iff, Prod.mk.injEq]
  · intro entries sound
    obtain ⟨collide, accept⟩ := sound.ofEntries_iff
    exact ⟨collide, fun free => accept.2 (not_collide_of_no_joint free)⟩

def nonNumericEntries (tags : List String) : List TypeEntry := tags.map fun tag => ⟨tag, .nonNumeric, none⟩

/-- The pairs `a`, `to_b` and `a_to`, `b` share the name `a_to_to_b_dictionary_create`, although no tag of
theirs holds the joint. -/
theorem overlapping_joints_collide :
    (SoundEntries (nonNumericEntries ["b", "a_to", "to_b", "a"]) ∧
      ∃ name, TypeTable.ofEntries (nonNumericEntries ["b", "a_to", "to_b", "a"]) =
        .error (.collidingConstructors name)) ∧
    SoundEntries (nonNumericEntries ["b", "a_too", "to_b", "a"]) ∧
      ∃ t, TypeTable.ofEntries (nonNumericEntries ["b", "a_too", "to_b", "a"]) = .ok t := by
  have valid {entries : List TypeEntry} (h : entries.all (·.isValid) = true) : ∀ e ∈ entries, e.Valid :=
    fun e mem => e.isValid_iff.1 (List.all_eq_true.1 h e mem)
  have overlapping : SoundEntries (nonNumericEntries ["b", "a_to", "to_b", "a"]) :=
    ⟨by decide, valid (by decide +kernel), by decide⟩
  have clear : SoundEntries (nonNumericEntries ["b", "a_too", "to_b", "a"]) :=
    ⟨by decide, valid (by decide +kernel), by decide⟩
  have rejected := (collidingConstructors_iff.2 _ overlapping).1
  have accepted := (collidingConstructors_iff.2 _ clear).2
  refine ⟨⟨overlapping, rejected.2 ⟨"a", by decide, "to_b", by decide, "a_to", by decide, "b", by decide, ?_⟩⟩,
    clear, accepted (by decide)⟩
  exact .sharing rfl rfl

end CollectionGlue
