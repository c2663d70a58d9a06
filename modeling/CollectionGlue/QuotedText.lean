import CollectionGlue.UnprintableCharacters

/-! # Text in double quotes, with every unprintable character spelled out -/
namespace CollectionGlue

def hexDigits (n : Nat) : List Char := Nat.toDigits 16 n

/-- A quote or backslash gets a backslash, NUL, tab and line breaks have a letter, and any other
unprintable character is written by its code point. -/
def quotedChar (c : Char) : List Char :=
  if c = '\x00' then ['\\', '0']
  else if c = '\t' then ['\\', 't']
  else if c = '\r' then ['\\', 'r']
  else if c = '\n' then ['\\', 'n']
  else if c = '\\' ∨ c = '"' then ['\\', c]
  else if isUnprintable c then ['\\', 'u', '\x7b'] ++ hexDigits c.toNat ++ ['\x7d']
  else [c]

def quotedText (text : String) : String :=
  String.ofList ('"' :: text.toList.flatMap quotedChar ++ ['"'])

end CollectionGlue
