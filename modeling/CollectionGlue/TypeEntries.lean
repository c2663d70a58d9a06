import CollectionGlue.IdentifierSpellings

/-! # One supported type: its tag, the way it compares and its C spelling -/
namespace CollectionGlue

/-- How the values of a type compare: by subtraction, by branching, or not at all, because the type
has no numeric C spelling and serves dictionaries only. -/
inductive Signedness | signed | unsigned | nonNumeric
  deriving DecidableEq, Repr

def Signedness.name : Signedness → String
  | .signed => "signed"
  | .unsigned => "unsigned"
  | .nonNumeric => "opaque"

def Signedness.all : List Signedness := [.signed, .unsigned, .nonNumeric]

def Signedness.ofName? (name : String) : Option Signedness :=
  Signedness.all.find? (·.name == name)

theorem Signedness.ofName?_name (s : Signedness) : Signedness.ofName? s.name = some s := by
  cases s <;> decide

structure TypeEntry where
  tag : String
  signedness : Signedness
  cType : Option String
  deriving DecidableEq, Repr

def underscoresToSpaces (tag : String) : String :=
  tag.map fun c => if c == '_' then ' ' else c

/-- The C spelling: the stored one, or else the tag with a space for each underscore. -/
def TypeEntry.spelling (e : TypeEntry) : String := e.cType.getD (underscoresToSpaces e.tag)

def TypeEntry.hasIdentifierTag (e : TypeEntry) : Bool := isIdentifier e.tag.toList

def TypeEntry.hasTypeSpelling (e : TypeEntry) : Bool := isTypeSpelling e.spelling.toList

/-- The tag is checked for itself and again through the spelling when none is stored. -/
def TypeEntry.isValid (e : TypeEntry) : Bool := e.hasIdentifierTag && e.hasTypeSpelling

end CollectionGlue
