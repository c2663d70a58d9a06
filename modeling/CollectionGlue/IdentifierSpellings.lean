/-! # The two languages of a type table: C identifiers and spellings of C types

Both are ASCII and both speak of the whole text: a final line break belongs to neither.
-/
namespace CollectionGlue

def opensIdentifier (c : Char) : Bool := c.isAlpha || c == '_'

def extendsIdentifier (c : Char) : Bool := c.isAlphanum || c == '_'

def isIdentifier : List Char → Bool
  | [] => false
  | c :: cs => opensIdentifier c && cs.all extendsIdentifier

/-- Scans words parted by single spaces; `inWord` tells whether a word has begun, so that a space
can end it. -/
def scansWords (inWord : Bool) : List Char → Bool
  | [] => inWord
  | c :: cs =>
    if inWord then
      if c == ' ' then scansWords false cs else extendsIdentifier c && scansWords true cs
    else opensIdentifier c && scansWords true cs

/-- One or more identifiers, each parted from the next by one space. -/
def isTypeSpelling (text : List Char) : Bool := scansWords false text

end CollectionGlue
