import CollectionGlue.FileSystems
import CollectionGlue.TableLoading
import CollectionGlue.SourceText
import CollectionGlue.CommandOutlines
import CollectionGlue.UsageTexts

/-! # Runs of the program, on any file system and on a tree of files

A command renders its text first and delivers it afterwards, so that a run that fails to render
leaves every file as it was. Events are logged on the way, and a filter chooses those that are shown.
-/
namespace CollectionGlue

inductive Event
  | loadedTable (path : String) (entries : Nat)
  | emittingComparators (functions : Nat) (header : Bool)
  | emittingConstructors (functions : Nat) (header : Bool)
  | wroteSource (path : String) (bytes : Nat)
  deriving DecidableEq, Repr

inductive LogLevel | off | error | warn | info | debug | trace
  deriving DecidableEq, Repr

def LogLevel.rank : LogLevel → Nat
  | .off => 0
  | .error => 1
  | .warn => 2
  | .info => 3
  | .debug => 4
  | .trace => 5

def LogLevel.name : LogLevel → String
  | .off => "off"
  | .error => "error"
  | .warn => "warn"
  | .info => "info"
  | .debug => "debug"
  | .trace => "trace"

def LogLevel.all : List LogLevel := [.off, .error, .warn, .info, .debug, .trace]

/-- The level named by a setting; warnings where there is no such level. Known are the six names in lower case only,
where the environment filter also takes names in any case, digits and directives for single targets. -/
def LogLevel.ofSetting (setting : Option String) : LogLevel :=
  (setting.bind fun name => LogLevel.all.find? (·.name == name)).getD .warn

def Event.level : Event → LogLevel
  | .wroteSource .. => .info
  | _ => .debug

/-- A choice of the events that are shown. -/
abbrev EventFilter := Event → Bool

def LogLevel.shows (level : LogLevel) : EventFilter := fun e => e.level.rank ≤ level.rank

def shownBool (b : Bool) : String := if b then "true" else "false"

/-- The line of an event in the log, without the time stamp that is put before it. -/
def Event.line : Event → String
  | .loadedTable path entries =>
    "DEBUG collgen::table: loaded type table path=" ++ path ++ " entries=" ++ toString entries ++ "\n"
  | .emittingComparators functions header =>
    "DEBUG collgen::cli: emitting comparators functions=" ++ toString functions ++
      " header=" ++ shownBool header ++ "\n"
  | .emittingConstructors functions header =>
    "DEBUG collgen::cli: emitting dictionary constructors functions=" ++ toString functions ++
      " header=" ++ shownBool header ++ "\n"
  | .wroteSource path bytes =>
    " INFO collgen::cli: wrote generated source path=" ++ path ++ " bytes=" ++ toString bytes ++ "\n"

def shownLog (shows : EventFilter) (events : List Event) : String :=
  String.join ((events.filter shows).map Event.line)

def logText (level : LogLevel) (events : List Event) : String := shownLog level.shows events

inductive RunFault
  | loading (path : String) (fault : LoadFault)
  | creatingDirectory (path : String) (fault : SystemFault)
  | writing (path : String) (fault : SystemFault)
  deriving DecidableEq, Repr

/-- What was being done, and then each cause in turn. -/
def RunFault.chain : RunFault → List String
  | .loading path fault =>
    ["loading type table from " ++ path, fault.message] ++
      match fault with
      | .unreadable _ cause => [cause.message]
      | _ => []
  | .creatingDirectory path fault => ["creating directory " ++ path, fault.message]
  | .writing path fault => ["writing " ++ path, fault.message]

def RunFault.message (f : RunFault) : String := ": ".intercalate f.chain

def RunFault.report (f : RunFault) : String := "error: " ++ f.message ++ "\n"

def Command.files : Command → Files
  | .compare files .. => files
  | .dict files .. => files
  | .table files => files

def Command.isNoOp : Command → Bool
  | .compare _ _ _ noOp => noOp
  | .dict _ _ noOp => noOp
  | .table _ => false

def sourceForm (header : Bool) : SourceForm := if header then .prototypes else .definitions

/-- The text that a command makes of a table. -/
def Command.textOf : Command → TypeTable → String
  | .compare _ header nullGuard _, t => sourceText (sourceForm header) (comparators nullGuard t)
  | .dict _ header _, t => sourceText (sourceForm header) (dictionaryConstructors t)
  | .table _, t => t.json ++ "\n"

def Command.emitting : Command → TypeTable → List Event
  | .compare _ header nullGuard _, t => [.emittingComparators (comparators nullGuard t).length header]
  | .dict _ header _, t => [.emittingConstructors (dictionaryConstructors t).length header]
  | .table _, _ => []

def Files.loading (f : Files) (t : TypeTable) : List Event :=
  match f.types with
  | some path => [.loadedTable path t.size]
  | none => []

/-- The table of a command. -/
def Files.load (f : Files) (read : String → Except SystemFault String) : Except RunFault TypeTable :=
  (TypeTable.loadOrBuiltin read f.types).mapError (.loading (f.types.getD ""))

structure Rendering where
  events : List Event
  text : Except RunFault String

/-- Everything but the delivery; `read` gives the content of a file. -/
def Command.render (c : Command) (read : String → Except SystemFault String) : Rendering :=
  match c.files.load read with
  | .error fault => ⟨[], .error fault⟩
  | .ok t => ⟨c.files.loading t ++ c.emitting t, .ok (c.textOf t)⟩

/-- What a run has to tell. -/
structure Report where
  events : List Event
  stdout : String
  notice : String
  fault : Option RunFault

structure Output where
  exitCode : Nat
  stdout : String
  stderr : String

def Stop.output (s : Stop) : Output :=
  if s.isAnswer then ⟨s.exitCode, s.text .stream, ""⟩ else ⟨s.exitCode, "", s.text .stream⟩

def Report.output (shows : EventFilter) (r : Report) : Output :=
  ⟨if r.fault.isSome then 1 else 0, r.stdout,
    shownLog shows r.events ++ r.notice ++ (r.fault.map RunFault.report).getD ""⟩

section
variable {m : Type → Type} [Monad m]

/-- Makes the directories above the path and writes the text there. -/
def FileSystem.deliver (files : FileSystem m) (path text : String) : m (Except RunFault Unit) := do
  let above := directoriesAbove path
  match ← files.makeDirectories above with
  | some fault => return .error (.creatingDirectory (above.head?.getD "") fault)
  | none =>
    match ← files.writeFile path text.toUTF8 with
    | .error fault => return .error (.writing path fault)
    | .ok () => return .ok ()

/-- The text of the type table; without a path it is not looked at. -/
def Files.source (f : Files) (files : FileSystem m) : m (Except SystemFault String) :=
  match f.types with
  | some path => files.readText path
  | none => return .error .notFound

def Command.perform (c : Command) (files : FileSystem m) : m Report :=
  if c.isNoOp then return ⟨[], "", c.outlineText ++ "\n", none⟩
  else do
    let source ← c.files.source files
    let rendering := c.render fun _ => source
    match rendering.text, c.files.out with
    | .error fault, _ => return ⟨rendering.events, "", "", some fault⟩
    | .ok text, none => return ⟨rendering.events, text, "", none⟩
    | .ok text, some path =>
      match ← files.deliver path text with
      | .error fault => return ⟨rendering.events, "", "", some fault⟩
      | .ok () => return ⟨rendering.events ++ [.wroteSource path text.utf8ByteSize], "", "", none⟩

def program (shows : EventFilter) (arguments : List String) (files : FileSystem m) : m Output :=
  match Command.parse arguments with
  | .error stop => return stop.output
  | .ok command => return (← command.perform files).output shows

end

/-- What a run leaves behind. -/
structure Run extends Report where
  tree : FileTree

structure Outcome extends Output where
  tree : FileTree

def FileTree.deliver (t : FileTree) (path text : String) : FileTree × Except RunFault Unit :=
  let ended := (system.deliver path text).run t
  (ended.2, ended.1)

def Command.run (c : Command) (t : FileTree) : Run :=
  let ended := (c.perform FileTree.system).run t
  ⟨ended.1, ended.2⟩

def runShowing (shows : EventFilter) (arguments : List String) (t : FileTree) : Outcome :=
  let ended := (program shows arguments FileTree.system).run t
  ⟨ended.1, ended.2⟩

def runProgram (level : LogLevel) (arguments : List String) (t : FileTree) : Outcome :=
  runShowing level.shows arguments t

end CollectionGlue
