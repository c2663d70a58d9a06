/-! # Text without the controls of a terminal

An escape character starts a sequence that a terminal would obey, and nothing of it is text. Outside
of sequences blanks are text and other control characters are not. A blank inside of a sequence is
text too: in a message it ends the sequence, and on a stream it only interrupts it, until another
control character comes.
-/
namespace CollectionGlue

inductive Medium | message | stream
  deriving DecidableEq, Repr

/-- What a character belongs to: text, or a part of a sequence that only some characters end. -/
inductive TerminalMode
  | text | escaped | designation | parameters | title
  | deviceEntry | deviceParameters | deviceIntermediates | deviceString
  deriving DecidableEq, Repr

/-- A mode, and whether a blank has interrupted it, so that text is read on its behalf. -/
structure TerminalState where
  mode : TerminalMode
  interrupted : Bool
  deriving DecidableEq, Repr

def TerminalState.text : TerminalState := ⟨.text, false⟩

def TerminalState.readsText (s : TerminalState) : Bool := s.mode == .text || s.interrupted

def isBlankControl (c : Char) : Bool := c == '\t' || c == '\n' || c == '\x0c' || c == '\r'

def isBelow (bound c : Char) : Bool := decide (c.toNat < bound.toNat)

def isOtherControl (c : Char) : Bool := (isBelow ' ' c && !isBlankControl c) || c == '\x7f'

def afterEscape (c : Char) : TerminalMode :=
  if isBelow '0' c then .designation
  else if c = '[' then .parameters
  else if c = ']' then .title
  else if c = 'P' then .deviceEntry
  else if c = 'X' ∨ c = '^' ∨ c = '_' then .deviceString
  else .text

/-- Parameters are digits, colons and semicolons; a sign of a private meaning comes before all of
them. -/
def afterDeviceParameter (isFirst : Bool) (c : Char) : TerminalMode :=
  if isBelow '0' c then .deviceIntermediates
  else if isBelow '<' c then .deviceParameters
  else if isFirst ∧ isBelow '@' c then .deviceParameters
  else .deviceString

/-- The mode behind a printable ASCII character. -/
def TerminalMode.afterPrintable : TerminalMode → Char → TerminalMode
  | .text, _ => .text
  | .escaped, c => afterEscape c
  | .designation, c => if isBelow '0' c then .designation else .text
  | .parameters, c => if isBelow '@' c then .parameters else .text
  | .title, _ => .title
  | .deviceEntry, c => afterDeviceParameter true c
  | .deviceParameters, c => afterDeviceParameter false c
  | .deviceIntermediates, c => if isBelow '0' c then .deviceIntermediates else .deviceString
  | .deviceString, _ => .deviceString

/-- The one byte that ends a device string, which the encoding of a character may hold. -/
def holdsTerminator (c : Char) : Bool := (String.singleton c).toUTF8.toList.contains 0x9c

/-- The mode behind a character of a sequence. -/
def TerminalMode.after (mode : TerminalMode) (c : Char) : TerminalMode :=
  if isBelow ' ' c ∨ c = '\x7f' then
    if c = '\x07' ∧ mode = .title then .text else mode
  else if isBelow '\x7f' c then mode.afterPrintable c
  else if mode = .deviceString ∧ holdsTerminator c then .text
  else mode

/-- Whether a blank inside of the sequence is text. -/
def TerminalMode.showsBlanks : TerminalMode → Bool
  | .text | .escaped | .designation | .parameters => true
  | .title | .deviceEntry | .deviceParameters | .deviceIntermediates | .deviceString => false

/-- The state behind a character, and whether the character is text. -/
def TerminalState.step (medium : Medium) (s : TerminalState) (c : Char) : TerminalState × Bool :=
  if c = '\x1b' then (⟨.escaped, false⟩, false)
  else if c = '\x18' ∨ c = '\x1a' then (.text, false)
  else if s.readsText then
    if isOtherControl c then (⟨s.mode, false⟩, false)
    else (if isBelow '\x7f' c then s else .text, true)
  else if isBlankControl c ∧ s.mode.showsBlanks then
    (match medium with
      | .message => .text
      | .stream => ⟨s.mode, true⟩, true)
  else (⟨s.mode.after c, false⟩, false)

def textFrom (medium : Medium) (s : TerminalState) : List Char → List Char
  | [] => []
  | c :: cs =>
    let (next, isText) := s.step medium c
    if isText then c :: textFrom medium next cs else textFrom medium next cs

def withoutControls (medium : Medium) (text : String) : String :=
  String.ofList (textFrom medium .text text.toList)

end CollectionGlue
