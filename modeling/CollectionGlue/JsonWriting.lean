import CollectionGlue.TypeTables

/-! # JSON text of type entries and of type tables

Inside a string only the quote, the backslash and the control characters are escaped.
-/
namespace CollectionGlue

/-- The letter that names a control character after a backslash. -/
def controlLetter? (c : Char) : Option Char :=
  if c = '\n' then some 'n'
  else if c = '\r' then some 'r'
  else if c = '\t' then some 't'
  else if c = '\x08' then some 'b'
  else if c = '\x0c' then some 'f'
  else none

def escapedJson (c : Char) : List Char :=
  if c = '"' ∨ c = '\\' then ['\\', c]
  else if c.toNat < 0x20 then
    match controlLetter? c with
    | some letter => ['\\', letter]
    | none => ['\\', 'u', '0', '0', Nat.digitChar (c.toNat / 16), Nat.digitChar (c.toNat % 16)]
  else [c]

def jsonStringChars (text : List Char) : List Char := '"' :: text.flatMap escapedJson ++ ['"']

def jsonString (text : String) : String := String.ofList (jsonStringChars text.toList)

/-- The members of an entry's object; a spelling that is not stored leaves no member. -/
def TypeEntry.members (e : TypeEntry) : List (String × String) :=
  [("tag", e.tag), ("signedness", e.signedness.name)] ++
    match e.cType with
    | some cType => [("c_type", cType)]
    | none => []

def TypeEntry.compactJson (e : TypeEntry) : String :=
  "\x7b" ++ ",".intercalate (e.members.map fun (key, value) => jsonString key ++ ":" ++ jsonString value)
    ++ "\x7d"

def TypeEntry.indentedJson (e : TypeEntry) : String :=
  "    \x7b\n" ++
    ",\n".intercalate
      (e.members.map fun (key, value) => "      " ++ jsonString key ++ ": " ++ jsonString value) ++
    "\n    \x7d"

/-- The indented text of a table; tables are not empty, so neither is the list. -/
def TypeTable.json (t : TypeTable) : String :=
  "\x7b\n  \"types\": [\n" ++ ",\n".intercalate (t.entries.map TypeEntry.indentedJson) ++ "\n  ]\n\x7d"

end CollectionGlue
