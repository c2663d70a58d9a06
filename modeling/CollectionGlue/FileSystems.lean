import CollectionGlue.FileTrees

/-! # File systems, and the making of directories in them

What the program asks of the files around it is an interface over any monad, so that its steps are written once. A
tree of files answers as a state that the steps pass on.
-/
namespace CollectionGlue

structure FileSystem (m : Type → Type) where
  readText : String → m (Except SystemFault String)
  makeDirectory : String → m (Except SystemFault Unit)
  isDirectory : String → m Bool
  writeFile : String → ByteArray → m (Except SystemFault Unit)

/-- Makes the first of the directories, which stand in each other in the given order, and before it
those further out that are missing. What has been made stays when a later step fails. -/
def FileSystem.makeDirectories {m : Type → Type} [Monad m] (files : FileSystem m) :
    List String → m (Option SystemFault)
  | [] => return none
  | path :: outer => do
    match ← files.makeDirectory path with
    | .ok () => return none
    | .error .notFound =>
      match ← files.makeDirectories outer with
      | some fault => return some fault
      | none =>
        match ← files.makeDirectory path with
        | .ok () => return none
        | .error fault => return if ← files.isDirectory path then none else some fault
    | .error fault => return if ← files.isDirectory path then none else some fault

namespace FileTree

/-- The step to a new tree; where there is none the tree stays as it is. -/
def change (step : FileTree → Except SystemFault FileTree) : StateM FileTree (Except SystemFault Unit) := do
  match step (← get) with
  | .ok changed =>
    set changed
    return .ok ()
  | .error fault => return .error fault

def system : FileSystem (StateM FileTree) where
  readText path := return (← get).readText path
  makeDirectory path := change (·.makeDirectory path)
  isDirectory path := return (← get).isDirectory path
  writeFile path content := change (·.writeFile path content)

def makeDirectories (t : FileTree) (paths : List String) : FileTree × Option SystemFault :=
  let ended := (system.makeDirectories paths).run t
  (ended.2, ended.1)

end FileTree

end CollectionGlue
