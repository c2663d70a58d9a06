import CollectionGlue.CommandLines
import CollectionGlue.QuotedText
import CollectionGlue.SourceText

/-! # The outline of a command: its settings, one to a line, nested by indentation -/
namespace CollectionGlue

def pathOutline (depth : Nat) (field : String) : Option String → List Line
  | none => [⟨depth, field ++ ": None,"⟩]
  | some path => [
      ⟨depth, field ++ ": Some("⟩,
      ⟨depth + 1, quotedText path ++ ","⟩,
      ⟨depth, "),"⟩]

def switchOutline (field : String) (raised : Bool) : Line :=
  ⟨3, field ++ ": " ++ (if raised then "true" else "false") ++ ","⟩

def Files.outline (f : Files) : List Line :=
  [⟨3, "table_settings: TableSettings \x7b"⟩] ++ pathOutline 4 "types" f.types ++ [⟨3, "\x7d,"⟩] ++
  [⟨3, "output_settings: OutputSettings \x7b"⟩] ++ pathOutline 4 "out" f.out ++ [⟨3, "\x7d,"⟩]

def variantOutline (variant settings : String) (fields : List Line) : List Line :=
  [⟨0, "CommandLineInterface \x7b"⟩, ⟨1, "cmd: " ++ variant ++ "("⟩, ⟨2, settings ++ " \x7b"⟩] ++
  fields ++ [⟨2, "\x7d,"⟩, ⟨1, "),"⟩, ⟨0, "\x7d"⟩]

def Command.outline : Command → List Line
  | .compare files header nullGuard noOp =>
    variantOutline "Compare" "CompareOut" (files.outline ++
      [switchOutline "header" header, switchOutline "null_guard" nullGuard, switchOutline "no_op" noOp])
  | .dict files header noOp =>
    variantOutline "Dict" "DictOut" (files.outline ++
      [switchOutline "header" header, switchOutline "no_op" noOp])
  | .table files => variantOutline "Table" "TableOut" files.outline

/-- The outline without a line break at its end. -/
def Command.outlineText (c : Command) : String :=
  "\n".intercalate (c.outline.map fun l => indentation l.depth ++ l.content)

end CollectionGlue
