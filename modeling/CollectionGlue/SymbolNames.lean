import Std.Data.HashSet.Lemmas

/-! # The C symbols that belong to a type tag and to a pair of tags -/
namespace CollectionGlue

/-- The functions that the collections library expects for every tag. -/
inductive Role | hashFunction | compare | copyConstructor | destructor
  deriving DecidableEq, Repr

def Role.suffix : Role → String
  | .hashFunction => "hash_function"
  | .compare => "compare"
  | .copyConstructor => "copy_constructor"
  | .destructor => "destructor"

def Role.all : List Role := [.hashFunction, .compare, .copyConstructor, .destructor]

def suffixedSymbol (tag suffix : String) : String := tag ++ "_" ++ suffix

def roleSymbol (tag : String) (role : Role) : String := suffixedSymbol tag role.suffix

def constructorSymbol (key value : String) : String :=
  key ++ "_to_" ++ value ++ "_dictionary_create"

/-- All ordered pairs, the first component in the outer loop. -/
def orderedPairs {α : Type} (items : List α) : List (α × α) :=
  items.flatMap fun a => items.map fun b => (a, b)

/-- The constructor symbols of all ordered pairs of tags, in the order they are emitted. -/
def constructorSymbols (tags : List String) : List String :=
  (orderedPairs tags).map fun (key, value) => constructorSymbol key value

/-- The earliest item that occurred before it, `seen` counting as before. -/
def firstRepeat {α : Type} [BEq α] [Hashable α] (seen : Std.HashSet α) : List α → Option α
  | [] => none
  | a :: rest => if seen.contains a then some a else firstRepeat (seen.insert a) rest

theorem mem_insert_iff {α : Type} [BEq α] [Hashable α] [LawfulBEq α] {seen : Std.HashSet α} {a b : α} :
    b ∈ seen.insert a ↔ b = a ∨ b ∈ seen := by
  rw [Std.HashSet.mem_insert, beq_iff_eq, eq_comm]

theorem firstRepeat_eq_none_iff {α : Type} [BEq α] [Hashable α] [LawfulBEq α]
    (seen : Std.HashSet α) (items : List α) :
    firstRepeat seen items = none ↔ items.Nodup ∧ ∀ a ∈ items, a ∉ seen := by
  induction items generalizing seen with
  | nil => simp [firstRepeat]
  | cons a rest ih =>
    rw [firstRepeat]
    split
    · rename_i h
      have mem := Std.HashSet.contains_iff_mem.1 h
      simp [mem]
    · rename_i h
      have fresh : a ∉ seen := fun mem => h (Std.HashSet.contains_iff_mem.2 mem)
      rw [ih, List.nodup_cons]
      constructor
      · rintro ⟨distinct, apart⟩
        refine ⟨⟨fun mem => apart a mem (mem_insert_iff.2 (.inl rfl)), distinct⟩, ?_⟩
        intro b mem
        rcases List.mem_cons.1 mem with rfl | mem
        · exact fresh
        · exact fun known => apart b mem (mem_insert_iff.2 (.inr known))
      · rintro ⟨⟨apart, distinct⟩, fresh_all⟩
        refine ⟨distinct, fun b mem known => ?_⟩
        rcases mem_insert_iff.1 known with rfl | known
        · exact apart mem
        · exact fresh_all b (List.mem_cons_of_mem a mem) known

end CollectionGlue
