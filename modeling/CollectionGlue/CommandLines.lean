/-! # Command lines: what can be asked for, and how arguments ask for it

Arguments are taken from left to right. An option that takes its value from the next argument waits
for it, and is settled only when a later option, or the end, comes up; so a fault of its own can
come after a fault of what follows it.
-/
namespace CollectionGlue

inductive Action | compare | dict | table
  deriving DecidableEq, Repr

inductive Switch | header | nullGuard | noOp
  deriving DecidableEq, Repr

inductive ValueOption | types | out
  deriving DecidableEq, Repr

def Action.name : Action → String
  | .compare => "compare"
  | .dict => "dict"
  | .table => "table"

def Action.all : List Action := [.compare, .dict, .table]

def Action.ofName? (name : String) : Option Action := Action.all.find? (·.name == name)

def Action.switches : Action → List Switch
  | .compare => [.header, .nullGuard, .noOp]
  | .dict => [.header, .noOp]
  | .table => []

def Switch.name : Switch → String
  | .header => "header"
  | .nullGuard => "null-guard"
  | .noOp => "no-op"

def ValueOption.name : ValueOption → String
  | .types => "types"
  | .out => "out"

def ValueOption.all : List ValueOption := [.types, .out]

def Switch.shown (s : Switch) : String := "--" ++ s.name

def ValueOption.shown : ValueOption → String
  | .types => "--types <TYPES>"
  | .out => "--out <OUT>"

inductive HelpTopic
  | program
  | action (a : Action)
  | help
  deriving DecidableEq, Repr

inductive UsageFault
  | unknownCommand (name : String)
  | unknownArgument (text : String)
  | missingValue (o : ValueOption)
  | repeatedOption (o : ValueOption)
  | repeatedSwitch (s : Switch)
  | unneededValue (value flag : String)
  deriving DecidableEq, Repr

/-- Why a command line leads to no command. -/
inductive Stop
  | fault (f : UsageFault)
  | help (topic : HelpTopic)
  | helpInstead
  | version
  deriving DecidableEq, Repr

/-- The options that have been given. -/
structure Settings where
  types : Option String
  out : Option String
  header : Bool
  nullGuard : Bool
  noOp : Bool
  deriving DecidableEq, Repr

def Settings.initial : Settings := ⟨none, none, false, false, false⟩

structure Files where
  types : Option String
  out : Option String
  deriving DecidableEq, Repr

inductive Command
  | compare (files : Files) (header nullGuard noOp : Bool)
  | dict (files : Files) (header noOp : Bool)
  | table (files : Files)
  deriving DecidableEq, Repr

def Settings.files (s : Settings) : Files := ⟨s.types, s.out⟩

def Settings.command (s : Settings) : Action → Command
  | .compare => .compare s.files s.header s.nullGuard s.noOp
  | .dict => .dict s.files s.header s.noOp
  | .table => .table s.files

def Settings.value? (s : Settings) : ValueOption → Option String
  | .types => s.types
  | .out => s.out

def Settings.isRaised (s : Settings) : Switch → Bool
  | .header => s.header
  | .nullGuard => s.nullGuard
  | .noOp => s.noOp

def Settings.withValue (s : Settings) (value : String) : ValueOption → Settings
  | .types => { s with types := some value }
  | .out => { s with out := some value }

def Settings.withSwitch (s : Settings) : Switch → Settings
  | .header => { s with header := true }
  | .nullGuard => { s with nullGuard := true }
  | .noOp => { s with noOp := true }

def Settings.store (s : Settings) (o : ValueOption) (value : String) : Except UsageFault Settings :=
  if (s.value? o).isSome then .error (.repeatedOption o)
  else if value = "" then .error (.missingValue o)
  else .ok (s.withValue value o)

def Settings.raise (s : Settings) (w : Switch) : Except UsageFault Settings :=
  if s.isRaised w then .error (.repeatedSwitch w) else .ok (s.withSwitch w)

/-- An option whose value comes in an argument of its own, with the value once that has come. -/
structure Waiting where
  option : ValueOption
  value : Option String
  deriving DecidableEq, Repr

/-- Stores what a waiting option has got. -/
def Settings.settle (s : Settings) : Option Waiting → Except UsageFault Settings
  | none => .ok s
  | some ⟨o, none⟩ => .error (.missingValue o)
  | some ⟨o, some value⟩ => s.store o value

inductive Argument
  | escape
  | long (name : String) (value : Option String)
  | short (letter : Char) (rest : List Char)
  | word
  deriving DecidableEq, Repr

/-- A lone dash is a word; a long name ends at the first equals sign. -/
def Argument.ofText (text : String) : Argument :=
  match text.toList with
  | [] => .word
  | c :: cs =>
    if c ≠ '-' then .word
    else
      match cs with
      | [] => .word
      | d :: ds =>
        if d ≠ '-' then .short d ds
        else if ds = [] then .escape
        else
          let name := ds.takeWhile (· ≠ '=')
          let value := (ds.dropWhile (· ≠ '=')).tail?
          .long (String.ofList name) (value.map String.ofList)

inductive LongOption
  | switch (w : Switch)
  | value (o : ValueOption)
  | help
  deriving DecidableEq, Repr

def Action.longOptions (a : Action) : List (String × LongOption) :=
  a.switches.map (fun w => (w.name, .switch w)) ++
    ValueOption.all.map (fun o => (o.name, .value o)) ++ [("help", .help)]

def Action.longOption? (a : Action) (name : String) : Option LongOption := a.longOptions.lookup name

def refuse {α : Type} (f : UsageFault) : Except Stop α := .error (.fault f)

def stopAtFault {α : Type} (x : Except UsageFault α) : Except Stop α := x.mapError .fault

/-- What an argument does to the settings and to the option that waits for its value. -/
def takeLong (a : Action) (s : Settings) (waiting : Option Waiting) (name : String)
    (value : Option String) : Except Stop (Settings × Option Waiting) :=
  match a.longOption? name, value with
  | none, _ => refuse (.unknownArgument ("--" ++ name))
  | some (.switch w), some v => refuse (.unneededValue v w.shown)
  | some .help, some v => refuse (.unneededValue v "--help")
  | some (.switch w), none => do
    let s ← stopAtFault (s.settle waiting)
    let s ← stopAtFault (s.raise w)
    return (s, none)
  | some .help, none => do
    let _ ← stopAtFault (s.settle waiting)
    .error (.help (.action a))
  | some (.value o), some v => do
    let s ← stopAtFault (s.settle waiting)
    let s ← stopAtFault (s.store o v)
    return (s, none)
  | some (.value o), none => do
    let s ← stopAtFault (s.settle waiting)
    return (s, some ⟨o, none⟩)

/-- Letters after the one for the output file are its value, with or without an equals sign before
it. -/
def takeShort (a : Action) (s : Settings) (waiting : Option Waiting) (letter : Char)
    (rest : List Char) : Except Stop (Settings × Option Waiting) :=
  if letter = 'h' then do
    let _ ← stopAtFault (s.settle waiting)
    .error (.help (.action a))
  else if letter = 'o' then do
    let s ← stopAtFault (s.settle waiting)
    match rest with
    | [] => return (s, some ⟨.out, none⟩)
    | c :: cs =>
      let s ← stopAtFault (s.store .out (String.ofList (if c = '=' then cs else c :: cs)))
      return (s, none)
  else refuse (.unknownArgument (String.ofList ['-', letter]))

/-- The options of an action. Words are taken only as values, and none after an escape. -/
def takeArguments (a : Action) (s : Settings) (waiting : Option Waiting) :
    List String → Except Stop Settings
  | [] => stopAtFault (s.settle waiting)
  | text :: rest =>
    match Argument.ofText text with
    | .escape =>
      match rest with
      | [] => stopAtFault (s.settle waiting)
      | word :: _ => refuse (.unknownArgument word)
    | .long name value =>
      takeLong a s waiting name value >>= fun (s, waiting) => takeArguments a s waiting rest
    | .short letter letters =>
      takeShort a s waiting letter letters >>= fun (s, waiting) => takeArguments a s waiting rest
    | .word =>
      match waiting with
      | some ⟨o, none⟩ => takeArguments a s (some ⟨o, some text⟩) rest
      | _ => refuse (.unknownArgument text)

def HelpTopic.ofName? (name : String) : Option HelpTopic :=
  if name = "help" then some .help else (Action.ofName? name).map .action

/-- What the names after `help` ask for. -/
def helpStop : List String → Stop
  | [] => .help .program
  | name :: rest =>
    match HelpTopic.ofName? name, rest with
    | none, _ => .fault (.unknownCommand name)
    | some topic, [] => .help topic
    | some _, further :: _ => .fault (.unknownCommand further)

/-- What a word behind an early escape leads to: no action can be named there. -/
def escapedStop (word : String) : Stop :=
  .fault (if (HelpTopic.ofName? word).isSome then .unknownArgument word else .unknownCommand word)

/-- What an argument before the action, which cannot be a part of a command, leads to. -/
def earlyStop (text : String) (rest : List String) : Stop :=
  match Argument.ofText text with
  | .escape =>
    match rest with
    | [] => .helpInstead
    | word :: _ => escapedStop word
  | .long name value =>
    if name = "help" ∨ name = "version" then
      match value with
      | some v => .fault (.unneededValue v ("--" ++ name))
      | none => if name = "help" then .help .program else .version
    else .fault (.unknownArgument ("--" ++ name))
  | .short letter _ =>
    if letter = 'h' then .help .program
    else if letter = 'V' then .version
    else .fault (.unknownArgument (String.ofList ['-', letter]))
  | .word => .fault (.unknownCommand text)

def Command.parse : List String → Except Stop Command
  | [] => .error .helpInstead
  | text :: rest =>
    match Action.ofName? text with
    | some a => (takeArguments a .initial none rest).map fun s => s.command a
    | none => .error (if text = "help" then helpStop rest else earlyStop text rest)

end CollectionGlue
