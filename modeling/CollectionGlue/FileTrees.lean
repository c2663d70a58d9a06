/-! # A tree of files and what reading, writing and making directories do to it

Paths are resolved name by name: every name but the last must lead to a directory.
-/
namespace CollectionGlue

inductive SystemFault
  | notFound
  | alreadyExists
  | notDirectory
  | isDirectory
  | nameTooLong
  | nulInPath
  | notUtf8
  | other (text : String)
  deriving DecidableEq, Repr

def SystemFault.message : SystemFault → String
  | .notFound => "No such file or directory (os error 2)"
  | .alreadyExists => "File exists (os error 17)"
  | .notDirectory => "Not a directory (os error 20)"
  | .isDirectory => "Is a directory (os error 21)"
  | .nameTooLong => "File name too long (os error 36)"
  | .nulInPath => "file name contained an unexpected NUL byte"
  | .notUtf8 => "stream did not contain valid UTF-8"
  | .other text => text

def pathSegments (path : String) : List String := (path.toList.splitOn '/').map String.ofList

def isAbsolutePath (path : String) : Bool := path.toList.head? == some '/'

def endsInSlash (path : String) : Bool := path.toList.getLast? == some '/'

/-- The texts that lead to the segments, each with all that is written before it; empty segments and
dots name nothing of their own. -/
def segmentTexts (before : String) : List String → List String
  | [] => []
  | segment :: rest =>
    let here := before ++ segment
    if segment = "" ∨ segment = "." then segmentTexts (here ++ "/") rest
    else here :: segmentTexts (here ++ "/") rest

/-- Everything that a path leads through, itself at the end; a dot in front counts. -/
def pathTexts (path : String) : List String :=
  match pathSegments path with
  | [] => []
  | first :: rest => (if first = "" then [] else [first]) ++ segmentTexts (first ++ "/") rest

/-- The directories on the way to a path, the nearest to it first. -/
def directoriesAbove (path : String) : List String := (pathTexts path).dropLast.reverse

inductive Node
  | directory
  | file (content : ByteArray)

instance : DecidableEq Node
  | .directory, .directory => isTrue rfl
  | .directory, .file _ => isFalse nofun
  | .file _, .directory => isFalse nofun
  | .file a, .file b =>
    if same : a.data = b.data then isTrue (congrArg Node.file (ByteArray.ext same))
    else isFalse fun h => same (by cases h; rfl)

/-- The names that lead from the root of a tree to a place in it. -/
abbrev Location := List String

/-- Every node below the root with its location. -/
structure FileTree where
  nodes : List (Location × Node)
  workingDirectory : Location

namespace FileTree

def node? (t : FileTree) (location : Location) : Option Node :=
  if location = [] then some .directory else t.nodes.lookup location

def put (t : FileTree) (location : Location) (node : Node) : FileTree :=
  { t with nodes := (location, node) :: t.nodes.filter fun entry => entry.1 != location }

def longestName : Nat := 255

def longestPath : Nat := 4095

/-- The node of that name in a directory, if there is one. -/
def child? (t : FileTree) (here : Location) (name : String) : Except SystemFault (Option Node) :=
  if longestName < name.utf8ByteSize then .error .nameTooLong else .ok (t.node? (here ++ [name]))

def enter (t : FileTree) (here : Location) (name : String) : Except SystemFault Location :=
  if name = "." then .ok here
  else if name = ".." then .ok here.dropLast
  else
    match t.child? here name with
    | .error fault => .error fault
    | .ok none => .error .notFound
    | .ok (some (.file _)) => .error .notDirectory
    | .ok (some .directory) => .ok (here ++ [name])

def walk (t : FileTree) (here : Location) : List String → Except SystemFault Location
  | [] => .ok here
  | name :: names => t.enter here name >>= fun there => t.walk there names

/-- What a path leads to: a directory that surely exists, or a name that its directory may hold. -/
inductive Target
  | directory (location : Location)
  | named (parent : Location) (name : String)

def target (t : FileTree) (path : String) : Except SystemFault Target :=
  if '\x00' ∈ path.toList then .error .nulInPath
  else if path = "" then .error .notFound
  else if longestPath < path.utf8ByteSize then .error .nameTooLong
  else
    let names := (pathSegments path).filter (· ≠ "")
    let start := if isAbsolutePath path then [] else t.workingDirectory
    match names.getLast? with
    | none => .ok (.directory start)
    | some last => do
      let here ← t.walk start names.dropLast
      if last = "." then return .directory here
      else if last = ".." then return .directory here.dropLast
      else return .named here last

def readFile (t : FileTree) (path : String) : Except SystemFault ByteArray := do
  match ← t.target path with
  | .directory _ => .error .isDirectory
  | .named here name =>
    match ← t.child? here name with
    | none => .error .notFound
    | some .directory => .error .isDirectory
    | some (.file content) => if endsInSlash path then .error .notDirectory else return content

def readText (t : FileTree) (path : String) : Except SystemFault String := do
  match String.fromUTF8? (← t.readFile path) with
  | some text => return text
  | none => .error .notUtf8

/-- Makes the file or replaces its whole content. -/
def writeFile (t : FileTree) (path : String) (content : ByteArray) : Except SystemFault FileTree := do
  match ← t.target path with
  | .directory _ => .error .isDirectory
  | .named here name =>
    if endsInSlash path then .error .isDirectory
    else
      match ← t.child? here name with
      | some .directory => .error .isDirectory
      | _ => return t.put (here ++ [name]) (.file content)

def makeDirectory (t : FileTree) (path : String) : Except SystemFault FileTree := do
  match ← t.target path with
  | .directory _ => .error .alreadyExists
  | .named here name =>
    match ← t.child? here name with
    | some _ => .error .alreadyExists
    | none => return t.put (here ++ [name]) .directory

def isDirectory (t : FileTree) (path : String) : Bool :=
  match t.target path with
  | .error _ => false
  | .ok (.directory _) => true
  | .ok (.named here name) =>
    match t.child? here name with
    | .ok (some .directory) => true
    | _ => false

/-- The proper prefixes of a location, the outermost first. -/
def parents (location : Location) : List Location :=
  (List.range location.length).map location.take

def addDirectories (t : FileTree) (location : Location) : FileTree :=
  (parents location).foldl (fun t parent => if (t.node? parent).isSome then t else t.put parent .directory) t

def addFile (t : FileTree) (location : Location) (content : ByteArray) : FileTree :=
  (t.addDirectories location).put location (.file content)

/-- A tree that holds nothing but the working directory. -/
def empty (workingDirectory : Location) : FileTree :=
  let t : FileTree := ⟨[], workingDirectory⟩
  if workingDirectory = [] then t
  else (t.addDirectories workingDirectory).put workingDirectory .directory

/-- The nodes in the working directory, by the path from there. -/
def below (t : FileTree) : List (String × Node) :=
  t.nodes.filterMap fun (location, node) =>
    if t.workingDirectory.isPrefixOf location then
      some ("/".intercalate (location.drop t.workingDirectory.length), node)
    else none

/-- The nodes in the working directory that were not the same before. -/
def changesSince (after before : FileTree) : List (String × Node) :=
  after.below.filter fun entry => !(before.below.contains entry)

end FileTree

end CollectionGlue
