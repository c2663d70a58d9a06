/-! # The grammar of JSON texts, with the tree that each text stands for

`Spells part s r` says that the text `s` begins with a spelling of `part` and goes on with `r`. A string
stands for its UTF-16 code units, since an escape may give one half of a surrogate pair alone; a numeral
stands for its own text. No reader is mentioned here.
-/
namespace CollectionGlue

inductive JsonTree
  | null
  | boolean (value : Bool)
  | numeral (text : List Char)
  | string (units : List UInt16)
  | list (trees : List JsonTree)
  | record (members : List (List UInt16 × JsonTree))

/-- Only blanks stand between the two places of a text. -/
inductive Gap : List Char → List Char → Prop
  | refl (s : List Char) : Gap s s
  | cons {c : Char} {s t : List Char} (blank : c = ' ' ∨ c = '\t' ∨ c = '\n' ∨ c = '\r')
      (rest : Gap s t) : Gap (c :: s) t

def utf16Units (c : Char) : List UInt16 :=
  if c.toNat < 0x10000 then [UInt16.ofNat c.toNat]
  else [UInt16.ofNat (0xD800 + (c.toNat - 0x10000) / 0x400),
    UInt16.ofNat (0xDC00 + (c.toNat - 0x10000) % 0x400)]

/-- The letters that may stand behind a backslash and what each means. -/
def letterEscapes : List (Char × Char) :=
  [('"', '"'), ('\\', '\\'), ('/', '/'), ('b', '\x08'), ('f', '\x0c'), ('n', '\n'), ('r', '\r'), ('t', '\t')]

def IsHexDigit (c : Char) (n : Nat) : Prop :=
  n < 16 ∧ (c = Nat.digitChar n ∨ c = (Nat.digitChar n).toUpper)

instance (c : Char) (n : Nat) : Decidable (IsHexDigit c n) := inferInstanceAs (Decidable (_ ∧ _))

def FourHexDigits (n : Nat) (s r : List Char) : Prop :=
  ∃ a b c d i j k l, s = a :: b :: c :: d :: r ∧ IsHexDigit a i ∧ IsHexDigit b j ∧ IsHexDigit c k ∧
    IsHexDigit d l ∧ n = ((i * 16 + j) * 16 + k) * 16 + l

/-- A string from behind its opening quote, and the code units that it stands for. -/
inductive Characters : List UInt16 → List Char → List Char → Prop
  | close (r : List Char) : Characters [] ('"' :: r) r
  | plain {c : Char} {units : List UInt16} {s r : List Char}
      (free : c ≠ '"' ∧ c ≠ '\\' ∧ 0x20 ≤ c.toNat) (rest : Characters units s r) :
      Characters (utf16Units c ++ units) (c :: s) r
  | letter {letter meant : Char} {units : List UInt16} {s r : List Char}
      (known : (letter, meant) ∈ letterEscapes) (rest : Characters units s r) :
      Characters (utf16Units meant ++ units) ('\\' :: letter :: s) r
  | unit {n : Nat} {units : List UInt16} {s t r : List Char} (digits : FourHexDigits n s t)
      (rest : Characters units t r) : Characters (UInt16.ofNat n :: units) ('\\' :: 'u' :: s) r

def IsDigits (text : List Char) : Prop := text ≠ [] ∧ text.all Char.isDigit = true

/-- A zero alone, or digits that do not begin with one. -/
def IsWhole (text : List Char) : Prop :=
  text = ['0'] ∨ (IsDigits text ∧ text.head? ≠ some '0')

def IsFraction (text : List Char) : Prop :=
  text = [] ∨ ∃ digits, IsDigits digits ∧ text = '.' :: digits

def IsExponent (text : List Char) : Prop :=
  text = [] ∨ ∃ mark sign digits, (mark = 'e' ∨ mark = 'E') ∧ (sign = [] ∨ sign = ['+'] ∨ sign = ['-']) ∧
    IsDigits digits ∧ text = mark :: (sign ++ digits)

def IsNumeral (text : List Char) : Prop :=
  ∃ minus whole fraction exponent, (minus = [] ∨ minus = ['-']) ∧ IsWhole whole ∧ IsFraction fraction ∧
    IsExponent exponent ∧ text = minus ++ (whole ++ (fraction ++ exponent))

/-- What may be spelled: a value, a value behind blanks, and what stands behind the bracket of a list or
a record (`first`) or behind one of its elements or members, up to and with the closing bracket. -/
inductive Part
  | value (tree : JsonTree)
  | spaced (tree : JsonTree)
  | elements (first : Bool) (trees : List JsonTree)
  | members (first : Bool) (members : List (List UInt16 × JsonTree))

/-- Before each element or member but the first there is a comma. -/
def Joint (first : Bool) (s t : List Char) : Prop := if first then s = t else Gap s (',' :: t)

inductive Spells : Part → List Char → List Char → Prop
  | null (r : List Char) : Spells (.value .null) ('n' :: 'u' :: 'l' :: 'l' :: r) r
  | yes (r : List Char) : Spells (.value (.boolean true)) ('t' :: 'r' :: 'u' :: 'e' :: r) r
  | no (r : List Char) : Spells (.value (.boolean false)) ('f' :: 'a' :: 'l' :: 's' :: 'e' :: r) r
  | numeral {text : List Char} (form : IsNumeral text) (r : List Char) :
      Spells (.value (.numeral text)) (text ++ r) r
  | string {units : List UInt16} {s r : List Char} (text : Characters units s r) :
      Spells (.value (.string units)) ('"' :: s) r
  | list {trees : List JsonTree} {s r : List Char} (inside : Spells (.elements true trees) s r) :
      Spells (.value (.list trees)) ('[' :: s) r
  | record {members : List (List UInt16 × JsonTree)} {s r : List Char}
      (inside : Spells (.members true members) s r) : Spells (.value (.record members)) ('\x7b' :: s) r
  | spaced {tree : JsonTree} {s t r : List Char} (gap : Gap s t) (value : Spells (.value tree) t r) :
      Spells (.spaced tree) s r
  | endOfList {first : Bool} {s r : List Char} (gap : Gap s (']' :: r)) : Spells (.elements first []) s r
  | element {first : Bool} {tree : JsonTree} {trees : List JsonTree} {s t u r : List Char}
      (joint : Joint first s t) (value : Spells (.spaced tree) t u)
      (rest : Spells (.elements false trees) u r) : Spells (.elements first (tree :: trees)) s r
  | endOfRecord {first : Bool} {s r : List Char} (gap : Gap s ('\x7d' :: r)) :
      Spells (.members first []) s r
  | member {first : Bool} {key : List UInt16} {tree : JsonTree}
      {members : List (List UInt16 × JsonTree)} {s t u v w x r : List Char}
      (joint : Joint first s t) (gap : Gap t ('"' :: u)) (name : Characters key u v)
      (colon : Gap v (':' :: w)) (value : Spells (.spaced tree) w x)
      (rest : Spells (.members false members) x r) :
      Spells (.members first ((key, tree) :: members)) s r

/-- The whole text is one value with blanks around it. -/
def Document (tree : JsonTree) (source : List Char) : Prop :=
  ∃ r, Spells (.spaced tree) source r ∧ Gap r []

end CollectionGlue
