import CollectionGlue.SourceText
import Mathlib.Algebra.Order.Ring.Int
import Mathlib.Logic.Function.Basic

/-! # The bodies of comparators as programs

A body is read as a list of C statements over two pointers. The statements print as the lines of the
body, and running them says what a comparator returns on pointers to integers of a given width.
-/
namespace CollectionGlue

inductive Pointer | a | b
  deriving DecidableEq, Repr

def Pointer.name : Pointer → String
  | .a => "a"
  | .b => "b"

/-- The local that holds a copy of what a pointer points to. -/
def Pointer.copyName : Pointer → String
  | .a => "aa"
  | .b => "bb"

inductive Expression
  | number (n : Int)
  | isNull (p : Pointer)
  | target (p : Pointer)
  | copy (p : Pointer)
  | difference (x y : Expression)
  | equal (x y : Expression)
  | less (x y : Expression)
  | both (x y : Expression)
  | either (x y : Expression)
  | choice (c x y : Expression)
  | grouped (x : Expression)
  deriving DecidableEq, Repr

inductive Statement
  | gap
  /-- Declares the local of a pointer. -/
  | copyTarget (p : Pointer)
  | answer (x : Expression)
  /-- Conditions with their answers, of which the first that holds is given. -/
  | answerIf (chain : List (Expression × Expression))
  deriving DecidableEq, Repr

def Expression.text (cType : String) : Expression → String
  | .number n => toString n
  | .isNull p => "!" ++ p.name
  | .target p => dereferenced cType p.name
  | .copy p => p.copyName
  | .difference x y => x.text cType ++ " - " ++ y.text cType
  | .equal x y => x.text cType ++ " == " ++ y.text cType
  | .less x y => x.text cType ++ " < " ++ y.text cType
  | .both x y => x.text cType ++ " && " ++ y.text cType
  | .either x y => x.text cType ++ " || " ++ y.text cType
  | .choice c x y => c.text cType ++ " ? " ++ x.text cType ++ " : " ++ y.text cType
  | .grouped x => "(" ++ x.text cType ++ ")"

def chainLines (cType opening : String) : List (Expression × Expression) → List Line
  | [] => [⟨1, "\x7d"⟩]
  | (c, x) :: more =>
    ⟨1, opening ++ "if ( " ++ c.text cType ++ " ) \x7b"⟩ :: ⟨2, "return " ++ x.text cType ++ ";"⟩ ::
      chainLines cType "\x7d else " more

def Statement.lines (cType : String) : Statement → List Line
  | .gap => [.blank]
  | .copyTarget p =>
    [⟨1, cType ++ (" " ++ p.copyName ++ " = ") ++ dereferenced cType p.name ++ ";"⟩]
  | .answer x => [⟨1, "return " ++ x.text cType ++ ";"⟩]
  | .answerIf chain => chainLines cType "" chain

/-- What a comparator works on: the width of its type in bits, the integer behind each pointer that is
not null, and the locals that are set. -/
structure Frame where
  width : Nat
  pointer : Pointer → Option Int
  copied : Pointer → Option Int

def truth (p : Prop) [Decidable p] : Int := if p then 1 else 0

/-- Arithmetic is that of signed integers of at least 32 bits and wraps at their width. There is no
value where a null pointer is followed or a local is not set. -/
def Expression.eval (f : Frame) : Expression → Option Int
  | .number n => some n
  | .isNull p => some (truth (f.pointer p = none))
  | .target p => f.pointer p
  | .copy p => f.copied p
  | .difference x y => do
    let m ← x.eval f
    let n ← y.eval f
    return (m - n).bmod (2 ^ max f.width 32)
  | .equal x y => do
    let m ← x.eval f
    let n ← y.eval f
    return truth (m = n)
  | .less x y => do
    let m ← x.eval f
    let n ← y.eval f
    return truth (m < n)
  | .both x y => do
    let m ← x.eval f
    if m = 0 then return 0
    let n ← y.eval f
    return truth (n ≠ 0)
  | .either x y => do
    let m ← x.eval f
    if m ≠ 0 then return 1
    let n ← y.eval f
    return truth (n ≠ 0)
  | .choice c x y => do
    let m ← c.eval f
    if m ≠ 0 then x.eval f else y.eval f
  | .grouped x => x.eval f

/-- The answer of the first condition that holds, if one does. -/
def firstAnswer (f : Frame) : List (Expression × Expression) → Option (Option Int)
  | [] => some none
  | (c, x) :: more => do
    let m ← c.eval f
    if m ≠ 0 then (x.eval f).map some else firstAnswer f more

/-- The answer of the first statement that gives one. -/
def runStatements (f : Frame) : List Statement → Option Int
  | [] => none
  | .gap :: rest => runStatements f rest
  | .copyTarget p :: rest => do
    let n ← f.pointer p
    runStatements { f with copied := Function.update f.copied p (some n) } rest
  | .answer x :: _ => x.eval f
  | .answerIf chain :: rest => do
    match ← firstAnswer f chain with
    | some n => return n
    | none => runStatements f rest

def guardStatements (nullGuard : Bool) : List Statement :=
  if nullGuard then [
    .answerIf [
      (.both (.isNull .a) (.isNull .b), .number 0),
      (.either (.isNull .a) (.isNull .b), .choice (.grouped (.isNull .a)) (.number (-1)) (.number 1))],
    .gap]
  else []

/-- The statements of a comparator's body; a constructor's body compares nothing. -/
def Body.statements : Body → List Statement
  | .subtraction _ nullGuard =>
    guardStatements nullGuard ++ [.answer (.difference (.target .a) (.target .b))]
  | .branching _ nullGuard => guardStatements nullGuard ++ [
      .copyTarget .a,
      .copyTarget .b,
      .gap,
      .answerIf [(.equal (.copy .a) (.copy .b), .number 0)],
      .gap,
      .answer (.choice (.less (.copy .a) (.copy .b)) (.number (-1)) (.number 1))]
  | .dictionary _ _ => []

private theorem lines_guardStatements (cType : String) (nullGuard : Bool) :
    (guardStatements nullGuard).flatMap (Statement.lines cType) = guardLines nullGuard := by
  cases nullGuard <;> rfl

/-- The statements that a comparator's body is read as print as the lines of the body. -/
theorem lines_statements {nullGuard : Bool} {e : TypeEntry} {body : Body}
    (h : comparisonBody? nullGuard e = some body) :
    body.statements.flatMap (Statement.lines e.spelling) = body.lines := by
  rcases comparisonBody?_eq_some h with ⟨-, rfl⟩ | ⟨-, rfl⟩
  · rw [Body.statements, List.flatMap_append, lines_guardStatements]
    simp only [List.flatMap_cons, List.flatMap_nil, List.append_nil, Statement.lines, Expression.text,
      Pointer.name, Body.lines, String.append_assoc]
  · have left : " " ++ Pointer.a.copyName ++ " = " = " aa = " := rfl
    have right : " " ++ Pointer.b.copyName ++ " = " = " bb = " := rfl
    rw [Body.statements, List.flatMap_append, lines_guardStatements]
    simp only [List.flatMap_cons, List.flatMap_nil, Statement.lines, left, right]
    rfl

/-- What a comparator with this body returns, as a 32-bit integer, on pointers that are null or point
to integers of the width. -/
def Body.result (body : Body) (width : Nat) (p q : Option Int) : Option Int :=
  (runStatements ⟨width, fun | .a => p | .b => q, fun _ => none⟩ body.statements).map fun n =>
    n.bmod (2 ^ 32)

/-- Between pointers that are not null the guard gives no answer. -/
theorem runStatements_guard_some {f : Frame} {x y : Int} (a : f.pointer .a = some x)
    (b : f.pointer .b = some y) (nullGuard : Bool) (rest : List Statement) :
    runStatements f (guardStatements nullGuard ++ rest) = runStatements f rest := by
  cases nullGuard with
  | false => rfl
  | true => simp [guardStatements, runStatements, firstAnswer, Expression.eval, truth, a, b]

/-- Where a pointer is null the guard answers for every body. -/
theorem runStatements_guard_none {f : Frame} (null : f.pointer .a = none ∨ f.pointer .b = none)
    (rest : List Statement) :
    runStatements f (guardStatements true ++ rest) =
      some (if f.pointer .a = f.pointer .b then 0 else if f.pointer .a = none then -1 else 1) := by
  cases a : f.pointer .a <;> cases b : f.pointer .b <;>
    simp_all [guardStatements, runStatements, firstAnswer, Expression.eval, truth]

theorem result_subtraction (cType : String) (nullGuard : Bool) (width : Nat) (x y : Int) :
    (Body.subtraction cType nullGuard).result width (some x) (some y) = some ((x - y).bmod (2 ^ 32)) := by
  have divides : 2 ^ 32 ∣ 2 ^ max width 32 := Nat.pow_dvd_pow 2 (Nat.le_max_right width 32)
  rw [Body.result, Body.statements, runStatements_guard_some rfl rfl]
  exact congrArg some (Int.bmod_bmod_of_dvd divides)

theorem result_branching (cType : String) (nullGuard : Bool) (width : Nat) (x y : Int) :
    (Body.branching cType nullGuard).result width (some x) (some y) =
      some (if x = y then 0 else if x < y then -1 else 1) := by
  rw [Body.result, Body.statements, runStatements_guard_some rfl rfl]
  by_cases same : x = y
  · simp [runStatements, firstAnswer, Expression.eval, truth, same]
  · by_cases below : x < y
    · have apart : ¬y ≤ x := Int.not_le.2 below
      simp [runStatements, firstAnswer, Expression.eval, truth, same, below, apart]
    · have above : y ≤ x := Int.not_lt.1 below
      simp [runStatements, firstAnswer, Expression.eval, truth, same, above]

end CollectionGlue
