import CollectionGlue.TypeTables
import CollectionGlue.TableDocuments
import CollectionGlue.JsonWriting
import CollectionGlue.FileTrees

/-! # Loading a type table from a JSON text or from a file -/
namespace CollectionGlue

inductive LoadFault
  | unreadable (path : String) (fault : SystemFault)
  | malformed (fault : DocumentFault)
  | rejected (rejection : TableRejection)
  deriving DecidableEq, Repr

def LoadFault.message : LoadFault → String
  | .unreadable path fault => "failed to read type table " ++ path ++ ": " ++ fault.message
  | .malformed fault => "invalid type table at `" ++ fault.pathText ++ "`: " ++ fault.message
  | .rejected rejection => rejection.message

def TypeTable.ofJson (source : String) : Except LoadFault TypeTable :=
  match readTable source with
  | .error fault => .error (.malformed fault)
  | .ok entries => (TypeTable.ofEntries entries).mapError .rejected

/-- The table in a file, the content of which `read` gives. -/
def TypeTable.load (read : String → Except SystemFault String) (path : String) :
    Except LoadFault TypeTable :=
  match read path with
  | .error fault => .error (.unreadable path fault)
  | .ok source => TypeTable.ofJson source

/-- The built-in table where no file is named. -/
def TypeTable.loadOrBuiltin (read : String → Except SystemFault String) :
    Option String → Except LoadFault TypeTable
  | none => .ok .builtin
  | some path => TypeTable.load read path

def TypeTable.reloadsEqual (t : TypeTable) : Bool :=
  match TypeTable.ofJson t.json with
  | .ok reloaded => reloaded.entries == t.entries
  | .error _ => false

end CollectionGlue
