import CollectionGlue.QuotedText
import CollectionGlue.ShortestDecimals

/-! # Faults of JSON documents: the cause, the path to it and its position -/
namespace CollectionGlue

inductive JsonNumber
  | integer (value : Int)
  | float (negative : Bool) (magnitude : Binary64)
  deriving DecidableEq, Repr

/-- What a reader wants where a document holds something else. -/
inductive Wanted | table | entry | sequence | string | null
  deriving DecidableEq, Repr

inductive Found
  | null
  | boolean (value : Bool)
  | number (value : JsonNumber)
  | string (text : String)
  | sequence
  | record
  deriving DecidableEq, Repr

inductive Cause
  | endInValue | endInList | endInRecord | endInString
  | expectedColon | expectedListSeparator | expectedRecordSeparator
  | expectedLiteral | expectedValue
  | invalidEscape | invalidNumber | numberOutOfRange
  | loneSurrogate | unfinishedSurrogatePair | controlCharacter
  | keyNotString | trailingComma | trailingCharacters
  | invalidType (found : Found) (wanted : Wanted)
  | unknownSignedness (name : String)
  | repeatedField (name : String)
  | missingField (name : String)
  | invalidLength (found : Nat) (wanted : Wanted)
  deriving DecidableEq, Repr

/-- A step from a value to a part of it; `unknown` stands for a key that could not be read. -/
inductive Step
  | key (name : String)
  | index (position : Nat)
  | unknown
  deriving DecidableEq, Repr

/-- A fault seen by a reader: `rest` is the text not yet consumed, and `ahead` counts the bytes of it
that belong to the fault. -/
structure Fault where
  cause : Cause
  path : List Step
  rest : List Char
  ahead : Nat
  deriving DecidableEq, Repr

/-- The fault lies in what was consumed. -/
def Fault.behind (cause : Cause) (rest : List Char) : Fault := ⟨cause, [], rest, 0⟩

/-- The fault lies in the next byte. -/
def Fault.upon (cause : Cause) (rest : List Char) : Fault := ⟨cause, [], rest, 1⟩

def Fault.within (step : Step) (f : Fault) : Fault := { f with path := step :: f.path }

structure Position where
  line : Nat
  column : Nat
  deriving DecidableEq, Repr

def byteLength (text : List Char) : Nat := text.foldr (fun c n => c.utf8Size + n) 0

/-- The position after the first `count` bytes; lines count from one, columns count bytes. -/
def positionAfter (count : Nat) (p : Position) : List Char → Position
  | [] => p
  | c :: cs =>
    if count = 0 then p
    else if c = '\n' then positionAfter (count - 1) ⟨p.line + 1, 0⟩ cs
    else positionAfter (count - c.utf8Size) ⟨p.line, p.column + min count c.utf8Size⟩ cs

/-- A fault of a whole document. -/
structure DocumentFault where
  cause : Cause
  path : List Step
  position : Position
  deriving DecidableEq, Repr

/-- Looking past the end of the document stays at its end. -/
def Fault.located (source : List Char) (f : Fault) : DocumentFault :=
  ⟨f.cause, f.path, positionAfter (byteLength source - byteLength f.rest + f.ahead) ⟨1, 0⟩ source⟩

def JsonNumber.text : JsonNumber → String
  | .integer value => "integer `" ++ toString value ++ "`"
  | .float negative magnitude =>
    "floating point `" ++ (if negative then "-" else "") ++ magnitude.text ++ "`"

def Found.text : Found → String
  | .null => "null"
  | .boolean true => "boolean `true`"
  | .boolean false => "boolean `false`"
  | .number value => value.text
  | .string text => "string " ++ quotedText text
  | .sequence => "sequence"
  | .record => "map"

def Wanted.text : Wanted → String
  | .table => "struct TableFile"
  | .entry => "struct TypeEntry"
  | .sequence => "a sequence"
  | .string => "a string"
  | .null => "unit"

def Wanted.sizedText : Wanted → String
  | .table => "struct TableFile with 1 element"
  | .entry => "struct TypeEntry with 3 elements"
  | wanted => wanted.text

def Cause.text : Cause → String
  | .endInValue => "EOF while parsing a value"
  | .endInList => "EOF while parsing a list"
  | .endInRecord => "EOF while parsing an object"
  | .endInString => "EOF while parsing a string"
  | .expectedColon => "expected `:`"
  | .expectedListSeparator => "expected `,` or `]`"
  | .expectedRecordSeparator => "expected `,` or `\x7d`"
  | .expectedLiteral => "expected ident"
  | .expectedValue => "expected value"
  | .invalidEscape => "invalid escape"
  | .invalidNumber => "invalid number"
  | .numberOutOfRange => "number out of range"
  | .loneSurrogate => "lone leading surrogate in hex escape"
  | .unfinishedSurrogatePair => "unexpected end of hex escape"
  | .controlCharacter => "control character (\\u0000-\\u001F) found while parsing a string"
  | .keyNotString => "key must be a string"
  | .trailingComma => "trailing comma"
  | .trailingCharacters => "trailing characters"
  | .invalidType found wanted => "invalid type: " ++ found.text ++ ", expected " ++ wanted.text
  | .unknownSignedness name =>
    "unknown variant `" ++ name ++ "`, expected one of `signed`, `unsigned`, `opaque`"
  | .repeatedField name => "duplicate field `" ++ name ++ "`"
  | .missingField name => "missing field `" ++ name ++ "`"
  | .invalidLength found wanted =>
    "invalid length " ++ toString found ++ ", expected " ++ wanted.sizedText

def Step.text : Step → String
  | .key name => name
  | .index position => "[" ++ toString position ++ "]"
  | .unknown => "?"

/-- Steps after the first; an index joins without a dot. -/
def laterStepText : Step → String
  | .index position => (Step.index position).text
  | step => "." ++ step.text

def pathText : List Step → String
  | [] => "."
  | step :: steps => step.text ++ String.join (steps.map laterStepText)

def DocumentFault.pathText (f : DocumentFault) : String := CollectionGlue.pathText f.path

def DocumentFault.message (f : DocumentFault) : String :=
  f.cause.text ++ " at line " ++ toString f.position.line ++ " column " ++ toString f.position.column

end CollectionGlue
