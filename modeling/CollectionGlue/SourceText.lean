import CollectionGlue.GeneratedFunctions

/-! # C source text: functions as lines, as prototypes or as definitions -/
namespace CollectionGlue

/-- A line of source without its indentation and line break. -/
structure Line where
  depth : Nat
  content : String
  deriving DecidableEq, Repr

def Line.blank : Line := ⟨0, ""⟩

def indentation (depth : Nat) : String := String.join (List.replicate depth "    ")

def Line.text (l : Line) : String := indentation l.depth ++ l.content ++ "\n"

/-- A pointer type written up to its star takes the name without a space. -/
def Parameter.text (p : Parameter) : String :=
  if p.type.toList.getLast? = some '*' then p.type ++ p.name else p.type ++ " " ++ p.name

def parameterList (parameters : List Parameter) : String :=
  if parameters.isEmpty then "void" else ", ".intercalate (parameters.map Parameter.text)

def CFunction.signature (f : CFunction) : String :=
  f.returnType ++ " " ++ f.name ++ "(" ++ parameterList f.parameters ++ ")"

/-- Two null pointers are equal and a null pointer is below every other. -/
def nullGuardLines : List Line := [
  ⟨1, "if ( !a && !b ) \x7b"⟩,
  ⟨2, "return 0;"⟩,
  ⟨1, "\x7d else if ( !a || !b ) \x7b"⟩,
  ⟨2, "return (!a) ? -1 : 1;"⟩,
  ⟨1, "\x7d"⟩,
  .blank]

def guardLines (nullGuard : Bool) : List Line := if nullGuard then nullGuardLines else []

def dereferenced (cType pointer : String) : String := "*((" ++ cType ++ "*) " ++ pointer ++ ")"

def Body.lines : Body → List Line
  | .subtraction cType nullGuard => guardLines nullGuard ++ [
      ⟨1, "return " ++ dereferenced cType "a" ++ " - " ++ dereferenced cType "b" ++ ";"⟩]
  | .branching cType nullGuard => guardLines nullGuard ++ [
      ⟨1, cType ++ " aa = " ++ dereferenced cType "a" ++ ";"⟩,
      ⟨1, cType ++ " bb = " ++ dereferenced cType "b" ++ ";"⟩,
      .blank,
      ⟨1, "if ( aa == bb ) \x7b"⟩,
      ⟨2, "return 0;"⟩,
      ⟨1, "\x7d"⟩,
      .blank,
      ⟨1, "return aa < bb ? -1 : 1;"⟩]
  | .dictionary key value => [
      ⟨1, "return dictionary_create("⟩,
      ⟨2, roleSymbol key .hashFunction ++ ", " ++ roleSymbol key .compare ++ ","⟩,
      ⟨2, roleSymbol key .copyConstructor ++ ", " ++ roleSymbol key .destructor ++ ","⟩,
      ⟨2, roleSymbol value .copyConstructor ++ ", " ++ roleSymbol value .destructor⟩,
      ⟨1, ");"⟩]

inductive SourceForm | definitions | prototypes
  deriving DecidableEq, Repr

def CFunction.lines (form : SourceForm) (f : CFunction) : List Line :=
  match form with
  | .prototypes => [⟨0, f.signature ++ ";"⟩]
  | .definitions => ⟨0, f.signature ++ " \x7b"⟩ :: f.body.lines ++ [⟨0, "\x7d"⟩, .blank]

def linesText (lines : List Line) : String := String.join (lines.map Line.text)

/-- Equal functions in equal order give equal text. -/
def sourceText (form : SourceForm) (functions : List CFunction) : String :=
  linesText (functions.flatMap (CFunction.lines form))

/-- The text before the first batch of functions and after each. -/
def sourceTexts (form : SourceForm) (written : String) : List (List CFunction) → List String
  | [] => [written]
  | batch :: rest => written :: sourceTexts form (written ++ sourceText form batch) rest

theorem sourceText_append (form : SourceForm) (fs gs : List CFunction) :
    sourceText form (fs ++ gs) = sourceText form fs ++ sourceText form gs := by
  simp [sourceText, linesText]

end CollectionGlue
