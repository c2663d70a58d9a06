import CollectionGlue.TypeEntries
import CollectionGlue.SymbolNames

/-! # Type tables: lists of entries from which every generated symbol is a distinct identifier

`rejection?` names the first fault of a list; `rejection?_eq_none_iff` says that it finds one
exactly when the list is not `Acceptable`.
-/
namespace CollectionGlue

inductive TableRejection
  | invalidTag (tag : String)
  | invalidSpelling (tag spelling : String)
  | repeatedTag (tag : String)
  | noEntries
  | collidingConstructors (symbol : String)
  deriving DecidableEq, Repr

def TableRejection.message : TableRejection → String
  | .invalidTag tag => "type tag `" ++ tag ++ "` is not a C identifier"
  | .invalidSpelling tag spelling =>
    "C type `" ++ spelling ++ "` for tag `" ++ tag ++ "` is not a valid type spelling"
  | .repeatedTag tag => "type tag `" ++ tag ++ "` is declared more than once"
  | .noEntries => "type table is empty"
  | .collidingConstructors symbol =>
    "tags collide on dictionary constructor `" ++ symbol ++ "`"

def tagsOf (entries : List TypeEntry) : List String := entries.map (·.tag)

structure Acceptable (entries : List TypeEntry) : Prop where
  nonempty : entries ≠ []
  valid : ∀ e ∈ entries, e.isValid = true
  distinct_tags : (tagsOf entries).Nodup
  distinct_constructors : (constructorSymbols (tagsOf entries)).Nodup

/-- What is wrong with an entry that follows entries with the tags `seen`. -/
def entryRejection? (seen : List String) (e : TypeEntry) : Option TableRejection :=
  if e.hasIdentifierTag = false then some (.invalidTag e.tag)
  else if e.hasTypeSpelling = false then some (.invalidSpelling e.tag e.spelling)
  else if e.tag ∈ seen then some (.repeatedTag e.tag)
  else none

def firstEntryRejection? (seen : List String) : List TypeEntry → Option TableRejection
  | [] => none
  | e :: rest =>
    match entryRejection? seen e with
    | some fault => some fault
    | none => firstEntryRejection? (e.tag :: seen) rest

/-- Faults of single entries come first, in the order of the entries; then an empty list; then the
first constructor symbol that is emitted twice. -/
def rejection? (entries : List TypeEntry) : Option TableRejection :=
  match firstEntryRejection? [] entries with
  | some fault => some fault
  | none =>
    if entries.isEmpty then some .noEntries
    else (firstRepeat ∅ (constructorSymbols (tagsOf entries))).map .collidingConstructors

theorem entryRejection?_eq_none_iff (seen : List String) (e : TypeEntry) :
    entryRejection? seen e = none ↔ e.isValid = true ∧ e.tag ∉ seen := by
  unfold entryRejection? TypeEntry.isValid
  grind

theorem firstEntryRejection?_eq_none_iff (seen : List String) (entries : List TypeEntry) :
    firstEntryRejection? seen entries = none ↔
      (∀ e ∈ entries, e.isValid = true) ∧ (tagsOf entries).Nodup ∧ ∀ tag ∈ tagsOf entries, tag ∉ seen := by
  induction entries generalizing seen with
  | nil => simp [firstEntryRejection?, tagsOf]
  | cons e rest ih =>
    rw [firstEntryRejection?]
    cases h : entryRejection? seen e with
    | some fault =>
      have bad : ¬(e.isValid = true ∧ e.tag ∉ seen) := by
        rw [← entryRejection?_eq_none_iff, h]; simp
      simp only [reduceCtorEq, false_iff]
      rintro ⟨valid, -, fresh⟩
      exact bad ⟨valid e (by simp), fresh e.tag (by simp [tagsOf])⟩
    | none =>
      have good := (entryRejection?_eq_none_iff seen e).1 h
      simp only [ih]
      grind [tagsOf]

theorem rejection?_eq_none_iff (entries : List TypeEntry) :
    rejection? entries = none ↔ Acceptable entries := by
  unfold rejection?
  cases h : firstEntryRejection? [] entries with
  | some fault =>
    have bad := mt (firstEntryRejection?_eq_none_iff [] entries).2 (by simp [h])
    simp only [reduceCtorEq, false_iff]
    exact fun ok => bad ⟨ok.valid, ok.distinct_tags, by simp⟩
  | none =>
    have good := (firstEntryRejection?_eq_none_iff [] entries).1 h
    by_cases empty : entries = []
    · subst empty
      simp only [List.isEmpty_nil, if_true, reduceCtorEq, false_iff]
      exact fun ok => ok.nonempty rfl
    · simp only [List.isEmpty_iff, empty, if_false, Option.map_eq_none_iff, firstRepeat_eq_none_iff]
      exact ⟨fun distinct => ⟨empty, good.1, good.2.1, distinct.1⟩,
        fun ok => ⟨ok.distinct_constructors, by simp⟩⟩

structure TypeTable where
  entries : List TypeEntry
  acceptable : Acceptable entries

private theorem TypeTable.ext_entries {s t : TypeTable} (h : s.entries = t.entries) : s = t := by
  cases s; cases t; simp_all

def TypeTable.tags (t : TypeTable) : List String := tagsOf t.entries

def TypeTable.size (t : TypeTable) : Nat := t.entries.length

def TypeTable.ofEntries (entries : List TypeEntry) : Except TableRejection TypeTable :=
  match h : rejection? entries with
  | none => .ok ⟨entries, (rejection?_eq_none_iff entries).1 h⟩
  | some fault => .error fault

theorem TypeTable.ofEntries_eq_error_iff {entries : List TypeEntry} {fault : TableRejection} :
    TypeTable.ofEntries entries = .error fault ↔ rejection? entries = some fault := by
  unfold TypeTable.ofEntries
  split <;> simp_all

theorem TypeTable.ofEntries_eq_ok_iff {entries : List TypeEntry} {t : TypeTable} :
    TypeTable.ofEntries entries = .ok t ↔ t.entries = entries := by
  unfold TypeTable.ofEntries
  split
  · exact ⟨fun h => by cases h; rfl, fun h => congrArg _ (TypeTable.ext_entries h.symm)⟩
  · rename_i fault h
    refine ⟨fun h => by simp at h, fun same => ?_⟩
    have none_found := (rejection?_eq_none_iff t.entries).2 t.acceptable
    rw [same, h] at none_found
    cases none_found

/-- The tags that the collections library ships with. -/
def builtinEntries : List TypeEntry := [
  ⟨"shallow", .nonNumeric, none⟩,
  ⟨"string", .nonNumeric, none⟩,
  ⟨"char", .signed, some "char"⟩,
  ⟨"double", .signed, some "double"⟩,
  ⟨"float", .signed, some "float"⟩,
  ⟨"int", .signed, some "int"⟩,
  ⟨"long", .signed, some "long"⟩,
  ⟨"short", .signed, some "short"⟩,
  ⟨"unsigned_char", .unsigned, some "unsigned char"⟩,
  ⟨"unsigned_int", .unsigned, some "unsigned int"⟩,
  ⟨"unsigned_long", .unsigned, some "unsigned long"⟩,
  ⟨"unsigned_short", .unsigned, some "unsigned short"⟩]

private theorem builtinEntries_acceptable : Acceptable builtinEntries where
  nonempty := by decide
  valid := by decide +kernel
  distinct_tags := by decide +kernel
  distinct_constructors := by decide +kernel

def TypeTable.builtin : TypeTable := ⟨builtinEntries, builtinEntries_acceptable⟩

end CollectionGlue
