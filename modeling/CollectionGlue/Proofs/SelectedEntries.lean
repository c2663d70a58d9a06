import CollectionGlue.Proofs.SymbolHygiene

/-! # A selection of a table's entries makes a table of its own

Whatever entries are left out and in whatever order the others stand, the selection is accepted, and each
function made from it is one that the whole table gives: no function depends on the place of its entry or on
entries it does not mention.
-/
namespace CollectionGlue

private theorem Acceptable.of_selection {entries selected : List TypeEntry} (ok : Acceptable entries)
    (nonempty : selected ≠ []) (distinct : selected.Nodup) (within : ∀ e ∈ selected, e ∈ entries) :
    Acceptable selected := by
  have table := (acceptable_iff entries).1 ok
  refine (acceptable_iff selected).2 ⟨nonempty, fun e mem => table.valid e (within e mem), ?_, ?_⟩
  · refine distinct.imp_of_mem fun {a b} ha hb different same => different ?_
    exact eq_of_tag_eq ok.distinct_tags (within a ha) (within b hb) same
  · intro key hk value hv key' hk' value' hv' same
    exact table.injective key (within key hk) value (within value hv) key' (within key' hk') value'
      (within value' hv') same

/-- A comparator mentions the tag it is named after, a constructor its key and its value. -/
def CFunction.mentionsOnly (tags : List String) (f : CFunction) : Bool :=
  match f.body with
  | .dictionary key value => tags.contains key && tags.contains value
  | .subtraction .. | .branching .. => tags.any fun tag => f.name == roleSymbol tag .compare

private theorem mentionsOnly_comparator {nullGuard : Bool} {e : TypeEntry} {f : CFunction}
    (made : comparator? nullGuard e = some f) (tags : List String) :
    f.mentionsOnly tags = true ↔ e.tag ∈ tags := by
  obtain ⟨body, compared, rfl⟩ := Option.map_eq_some_iff.1 made
  have named : (tags.any fun tag => roleSymbol e.tag .compare == roleSymbol tag .compare) = true ↔ e.tag ∈ tags := by
    rw [List.any_eq_true]
    constructor
    · rintro ⟨tag, mem, same⟩
      rwa [(roleSymbol_injective (beq_iff_eq.1 same)).1]
    · exact fun mem => ⟨e.tag, mem, beq_self_eq_true _⟩
  rcases comparisonBody?_eq_some compared with ⟨-, rfl⟩ | ⟨-, rfl⟩
  · exact named
  · exact named

private theorem mentionsOnly_dictionaryConstructor (tags : List String) (key value : String) :
    (dictionaryConstructor key value).mentionsOnly tags = true ↔ key ∈ tags ∧ value ∈ tags := by
  simp [CFunction.mentionsOnly, dictionaryConstructor]

private theorem mem_tagsOf_selection {entries selected : List TypeEntry} (distinct : (tagsOf entries).Nodup)
    (within : ∀ e ∈ selected, e ∈ entries) {e : TypeEntry} (mem : e ∈ entries) :
    e.tag ∈ tagsOf selected ↔ e ∈ selected := by
  constructor
  · intro tagged
    obtain ⟨a, ha, same⟩ := List.mem_map.1 tagged
    rwa [← eq_of_tag_eq distinct (within a ha) mem same]
  · exact List.mem_map_of_mem

section
variable {s t : TypeTable} (within : ∀ e ∈ s.entries, e ∈ t.entries)
include within

private theorem mem_comparators_selection (nullGuard : Bool) (f : CFunction) :
    f ∈ comparators nullGuard s ↔ f ∈ comparators nullGuard t ∧ f.mentionsOnly s.tags = true := by
  have selected {e : TypeEntry} (mem : e ∈ t.entries) : e.tag ∈ s.tags ↔ e ∈ s.entries :=
    mem_tagsOf_selection t.acceptable.distinct_tags within mem
  simp only [comparators, List.mem_filterMap]
  constructor
  · rintro ⟨e, mem, made⟩
    exact ⟨⟨e, within e mem, made⟩, (mentionsOnly_comparator made _).2 ((selected (within e mem)).2 mem)⟩
  · rintro ⟨⟨e, mem, made⟩, mentioned⟩
    exact ⟨e, (selected mem).1 ((mentionsOnly_comparator made _).1 mentioned), made⟩

private theorem mem_dictionaryConstructors_selection (f : CFunction) :
    f ∈ dictionaryConstructors s ↔ f ∈ dictionaryConstructors t ∧ f.mentionsOnly s.tags = true := by
  have selected {e : TypeEntry} (mem : e ∈ t.entries) : e.tag ∈ s.tags ↔ e ∈ s.entries :=
    mem_tagsOf_selection t.acceptable.distinct_tags within mem
  simp only [mem_dictionaryConstructors]
  constructor
  · rintro ⟨key, hk, value, hv, rfl⟩
    refine ⟨⟨key, within key hk, value, within value hv, rfl⟩, ?_⟩
    exact (mentionsOnly_dictionaryConstructor _ _ _).2
      ⟨(selected (within key hk)).2 hk, (selected (within value hv)).2 hv⟩
  · rintro ⟨⟨key, hk, value, hv, rfl⟩, mentioned⟩
    obtain ⟨keyed, valued⟩ := (mentionsOnly_dictionaryConstructor _ _ _).1 mentioned
    exact ⟨key, (selected hk).1 keyed, value, (selected hv).1 valued, rfl⟩

end

private theorem nodup_comparators (nullGuard : Bool) (t : TypeTable) : (comparators nullGuard t).Nodup :=
  (nodup_names_comparators nullGuard t).of_map

private theorem nodup_dictionaryConstructors (t : TypeTable) : (dictionaryConstructors t).Nodup := by
  have names := t.acceptable.distinct_constructors
  rw [← TypeTable.tags, ← map_name_dictionaryConstructors] at names
  exact names.of_map

/-- The text of a batch is made of the texts of its functions. -/
theorem sourceText_eq_join (form : SourceForm) (functions : List CFunction) :
    sourceText form functions = String.join (functions.map fun f => sourceText form [f]) := by
  induction functions with
  | nil => rfl
  | cons f functions ih =>
    rw [← List.singleton_append, sourceText_append, ih]
    simp

/-- The same functions, each of them once, in an order of their own; so their text has the same pieces. -/
structure Rearranged (functions pool : List CFunction) : Prop where
  distinct : functions.Nodup
  same : functions.Perm pool
  text : ∀ form, ∃ pieces, pieces.Perm (pool.map fun f => sourceText form [f]) ∧
    sourceText form functions = String.join pieces

theorem Rearranged.of_mem_iff {functions all : List CFunction} {p : CFunction → Bool} (distinct : functions.Nodup)
    (distinct_all : all.Nodup) (same : ∀ f, f ∈ functions ↔ f ∈ all ∧ p f = true) :
    Rearranged functions (all.filter p) := by
  have perm : functions.Perm (all.filter p) := by
    rw [List.perm_ext_iff_of_nodup distinct (distinct_all.filter p)]
    intro f
    rw [List.mem_filter, same]
  exact ⟨distinct, perm, fun form => ⟨_, perm.map _, sourceText_eq_join form functions⟩⟩

/-- A selection of a table's entries, in any order, is accepted, and its functions are those of the whole
table that mention only selected tags. -/
theorem ofEntries_selection {entries selected : List TypeEntry} {t : TypeTable}
    (made : TypeTable.ofEntries entries = .ok t) (nonempty : selected ≠ []) (distinct : selected.Nodup)
    (within : ∀ e ∈ selected, e ∈ entries) :
    ∃ s, TypeTable.ofEntries selected = .ok s ∧ ∀ nullGuard,
      Rearranged (comparators nullGuard s)
        ((comparators nullGuard t).filter (·.mentionsOnly (tagsOf selected))) ∧
      Rearranged (dictionaryConstructors s)
        ((dictionaryConstructors t).filter (·.mentionsOnly (tagsOf selected))) := by
  obtain rfl := TypeTable.ofEntries_eq_ok_iff.1 made
  let s : TypeTable := ⟨selected, t.acceptable.of_selection nonempty distinct within⟩
  refine ⟨s, TypeTable.ofEntries_eq_ok_iff.2 rfl, fun nullGuard => ⟨?_, ?_⟩⟩
  · exact .of_mem_iff (nodup_comparators nullGuard s) (nodup_comparators nullGuard t)
      (mem_comparators_selection within nullGuard)
  · exact .of_mem_iff (nodup_dictionaryConstructors s) (nodup_dictionaryConstructors t)
      (mem_dictionaryConstructors_selection within)

/-- Two of the built-in types, the second one first. -/
theorem builtin_selection :
    TypeTable.ofEntries builtinEntries = .ok TypeTable.builtin ∧
      ∃ s, TypeTable.ofEntries [⟨"unsigned_int", .unsigned, some "unsigned int"⟩, ⟨"string", .nonNumeric, none⟩] = .ok s ∧
        ∀ nullGuard,
          Rearranged (comparators nullGuard s)
            ((comparators nullGuard TypeTable.builtin).filter (·.mentionsOnly ["unsigned_int", "string"])) ∧
          Rearranged (dictionaryConstructors s)
            ((dictionaryConstructors TypeTable.builtin).filter (·.mentionsOnly ["unsigned_int", "string"])) := by
  have made : TypeTable.ofEntries builtinEntries = .ok TypeTable.builtin := TypeTable.ofEntries_eq_ok_iff.2 rfl
  exact ⟨made, ofEntries_selection made (by decide) (by decide) (by decide)⟩

end CollectionGlue
