import CollectionGlue.TypeEntries
import CollectionGlue.Proofs.CodeUnits

/-! # Entries and tables decoded from a tree

The whole tree is there before anything is decoded, so no member comes first: a field looks for its key
among all members. The readers instead take members in the order of the text and keep what they
found. `fieldAfter?_cons` takes a field over one member, and a field that nothing was given to before is the
one that the decoder looks up.
-/
namespace CollectionGlue

def unitsOf (text : String) : List UInt16 := text.toList.flatMap utf16Units

def unitsText? (units : List UInt16) : Option String := (decodeUtf16? units).map String.ofList

def JsonTree.text? : JsonTree → Option String
  | .string units => unitsText? units
  | _ => none

def signednessNamed? : String → Option Signedness
  | "signed" => some .signed
  | "unsigned" => some .unsigned
  | "opaque" => some .nonNumeric
  | _ => none

/-- The name of a signedness, or a record with that name as its one key and null as its value. -/
def JsonTree.signedness? : JsonTree → Option Signedness
  | .string units => (unitsText? units).bind signednessNamed?
  | .record [(key, .null)] => (unitsText? key).bind signednessNamed?
  | _ => none

/-- A spelling that may be null. -/
def JsonTree.spelling? : JsonTree → Option (Option String)
  | .null => some none
  | tree => tree.text?.map some

/-- The members of a record, the keys of which must all be texts. -/
def namedMembers? (members : List (List UInt16 × JsonTree)) : Option (List (String × JsonTree)) :=
  members.mapM fun (key, tree) => (unitsText? key).map (·, tree)

def valuesOf (key : String) (members : List (String × JsonTree)) : List JsonTree :=
  (members.filter (·.1 == key)).map (·.2)

/-- A field that stands exactly once. -/
def required? {α : Type} (key : String) (decode : JsonTree → Option α)
    (members : List (String × JsonTree)) : Option α :=
  match valuesOf key members with
  | [tree] => decode tree
  | _ => none

/-- A field that may be absent, but does not stand twice. -/
def optional? {α : Type} (key : String) (decode : JsonTree → Option α) (absent : α)
    (members : List (String × JsonTree)) : Option α :=
  match valuesOf key members with
  | [] => some absent
  | [tree] => decode tree
  | _ => none

def JsonTree.entryValue? : JsonTree → Option TypeEntry
  | .record members => do
    let named ← namedMembers? members
    let tag ← required? "tag" text? named
    let signedness ← required? "signedness" signedness? named
    let cType ← optional? "c_type" spelling? none named
    return ⟨tag, signedness, cType⟩
  | .list [tag, signedness] => do return ⟨← tag.text?, ← signedness.signedness?, none⟩
  | .list [tag, signedness, cType] => do
    return ⟨← tag.text?, ← signedness.signedness?, ← cType.spelling?⟩
  | _ => none

def JsonTree.entries? : JsonTree → Option (List TypeEntry)
  | .list trees => trees.mapM entryValue?
  | _ => none

def JsonTree.table? : JsonTree → Option (List TypeEntry)
  | .record members => (namedMembers? members).bind (required? "types" entries?)
  | .list [entries] => entries.entries?
  | _ => none

theorem unitsText?_eq_some_iff {units : List UInt16} {text : String} :
    unitsText? units = some text ↔ unitsOf text = units := by
  rw [unitsText?, Option.map_eq_some_iff]
  constructor
  · rintro ⟨chars, decoded, rfl⟩
    rw [unitsOf, String.toList_ofList]
    exact (decodeUtf16?_eq_some_iff units chars).1 decoded
  · intro encoded
    exact ⟨text.toList, (decodeUtf16?_eq_some_iff units _).2 encoded, String.ofList_toList⟩

theorem mapM_cons_eq_some_iff {α β : Type} {f : α → Option β} {a : α} {l : List α} {l' : List β} :
    (a :: l).mapM f = some l' ↔ ∃ b bs, f a = some b ∧ l.mapM f = some bs ∧ l' = b :: bs := by
  rw [List.mapM_cons]
  constructor
  · intro h
    obtain ⟨b, hb, h⟩ := Option.bind_eq_some_iff.1 h
    obtain ⟨bs, hbs, same⟩ := Option.bind_eq_some_iff.1 h
    cases same
    exact ⟨b, bs, hb, hbs, rfl⟩
  · rintro ⟨b, bs, hb, hbs, rfl⟩
    exact Option.bind_eq_some_iff.2 ⟨b, hb, Option.bind_eq_some_iff.2 ⟨bs, hbs, rfl⟩⟩

theorem namedMembers?_cons_eq_some_iff {key : List UInt16} {tree : JsonTree}
    {members : List (List UInt16 × JsonTree)} {named : List (String × JsonTree)} :
    namedMembers? ((key, tree) :: members) = some named ↔
      ∃ name rest, unitsText? key = some name ∧ namedMembers? members = some rest ∧
        named = (name, tree) :: rest := by
  unfold namedMembers?
  rw [mapM_cons_eq_some_iff]
  constructor
  · rintro ⟨member, rest, here, found, rfl⟩
    obtain ⟨name, isText, rfl⟩ := Option.map_eq_some_iff.1 here
    exact ⟨name, rest, isText, found, rfl⟩
  · rintro ⟨name, rest, isText, found, rfl⟩
    exact ⟨_, rest, Option.map_eq_some_iff.2 ⟨name, isText, rfl⟩, found, rfl⟩

variable {α : Type} {key name : String} {decode : JsonTree → Option α} {tree : JsonTree} {given : Option α}
  {members : List (String × JsonTree)}

/-- A field that may only be taken when it has not been given. -/
def newField? (given : Option α) (found : Option α) : Option α :=
  match given with
  | none => found
  | some _ => none

/-- What a field holds after the members, when `given` was there before them. -/
def fieldAfter? (key : String) (decode : JsonTree → Option α) (given : Option α)
    (members : List (String × JsonTree)) : Option (Option α) :=
  match valuesOf key members with
  | [] => some given
  | [tree] => (newField? given (decode tree)).map some
  | _ => none

/-- What a field holds after one member, when `given` was there before it. -/
def absorbField? (key : String) (decode : JsonTree → Option α) (given : Option α) (name : String)
    (tree : JsonTree) : Option (Option α) :=
  if name = key then (newField? given (decode tree)).map some else some given

private theorem valuesOf_cons_of_eq (tree : JsonTree) (members : List (String × JsonTree)) :
    valuesOf key ((key, tree) :: members) = tree :: valuesOf key members := by
  simp [valuesOf]

private theorem valuesOf_cons_of_ne (other : name ≠ key) (tree : JsonTree) (members : List (String × JsonTree)) :
    valuesOf key ((name, tree) :: members) = valuesOf key members := by
  simp [valuesOf, other]

theorem fieldAfter?_nil (key : String) (decode : JsonTree → Option α) (given : Option α) :
    fieldAfter? key decode given [] = some given :=
  rfl

theorem fieldAfter?_cons (name : String) (tree : JsonTree) (members : List (String × JsonTree)) :
    fieldAfter? key decode given ((name, tree) :: members) =
      (absorbField? key decode given name tree).bind fun given' => fieldAfter? key decode given' members := by
  unfold fieldAfter? absorbField?
  by_cases same : name = key
  · subst same
    rw [valuesOf_cons_of_eq, if_pos rfl]
    cases valuesOf name members with
    | nil => exact (Option.bind_fun_some _).symm
    | cons second others =>
      dsimp only
      cases newField? given (decode tree) with
      | none => rfl
      | some a => cases others <;> rfl
  · rw [valuesOf_cons_of_ne same, if_neg same]
    rfl

theorem required?_eq_some_iff {a : α} :
    required? key decode members = some a ↔ fieldAfter? key decode none members = some (some a) := by
  unfold required? fieldAfter?
  cases valuesOf key members with
  | nil => constructor <;> nofun
  | cons tree others =>
    cases others with
    | nil => simp only [newField?, Option.map_eq_some_iff, Option.some.injEq, exists_eq_right]
    | cons => constructor <;> nofun

theorem optional?_eq_some_iff {absent a : α} :
    optional? key decode absent members = some a ↔
      ∃ found, fieldAfter? key decode none members = some found ∧ found.getD absent = a := by
  unfold optional? fieldAfter?
  cases valuesOf key members with
  | nil => simp
  | cons tree others =>
    cases others with
    | nil =>
      constructor
      · intro decoded
        exact ⟨some a, Option.map_eq_some_iff.2 ⟨a, decoded, rfl⟩, rfl⟩
      · rintro ⟨found, taken, rfl⟩
        obtain ⟨a, decoded, rfl⟩ := Option.map_eq_some_iff.1 taken
        exact decoded
    | cons => constructor <;> nofun

end CollectionGlue
