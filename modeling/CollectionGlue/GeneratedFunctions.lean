import CollectionGlue.TypeTables

/-! # The C functions generated from a type table: comparators and dictionary constructors -/
namespace CollectionGlue

structure Parameter where
  type : String
  name : String
  deriving DecidableEq, Repr

inductive Body
  | subtraction (cType : String) (nullGuard : Bool)
  | branching (cType : String) (nullGuard : Bool)
  | dictionary (key value : String)
  deriving DecidableEq, Repr

structure CFunction where
  returnType : String
  name : String
  parameters : List Parameter
  body : Body
  deriving DecidableEq, Repr

/-- Signed values are subtracted. Unsigned ones, whose difference would wrap, are told apart by branching. -/
def comparisonBody? (nullGuard : Bool) (e : TypeEntry) : Option Body :=
  match e.signedness with
  | .signed => some (.subtraction e.spelling nullGuard)
  | .unsigned => some (.branching e.spelling nullGuard)
  | .nonNumeric => none

theorem comparisonBody?_eq_some {nullGuard : Bool} {e : TypeEntry} {body : Body}
    (h : comparisonBody? nullGuard e = some body) :
    (e.signedness = .signed ∧ body = .subtraction e.spelling nullGuard) ∨
      (e.signedness = .unsigned ∧ body = .branching e.spelling nullGuard) := by
  unfold comparisonBody? at h
  cases signedness : e.signedness <;> rw [signedness] at h <;> cases h
  · exact .inl ⟨rfl, rfl⟩
  · exact .inr ⟨rfl, rfl⟩

def comparator? (nullGuard : Bool) (e : TypeEntry) : Option CFunction :=
  (comparisonBody? nullGuard e).map fun body =>
    ⟨"int", roleSymbol e.tag .compare, [⟨"void *", "a"⟩, ⟨"void *", "b"⟩], body⟩

/-- One comparator for each numeric entry, in the order of the table. -/
def comparators (nullGuard : Bool) (t : TypeTable) : List CFunction :=
  t.entries.filterMap (comparator? nullGuard)

def dictionaryConstructor (key value : String) : CFunction :=
  ⟨"dictionary*", constructorSymbol key value, [], .dictionary key value⟩

/-- One constructor for each ordered pair of tags, the key in the outer loop. -/
def dictionaryConstructors (t : TypeTable) : List CFunction :=
  (orderedPairs t.tags).map fun (key, value) => dictionaryConstructor key value

theorem map_name_dictionaryConstructors (t : TypeTable) :
    (dictionaryConstructors t).map (·.name) = constructorSymbols t.tags := by
  simp [dictionaryConstructors, constructorSymbols, dictionaryConstructor, Function.comp_def]

end CollectionGlue
