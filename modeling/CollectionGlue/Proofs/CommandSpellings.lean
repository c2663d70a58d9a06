import CollectionGlue.ProgramRuns

/-! # A command line for every command

A switch raises its setting and an option with an attached value stores it, whatever comes next. So there is a
command line for every command of which the paths are not empty.
-/
namespace CollectionGlue

variable {a : Action} {s : Settings} {c : Command}

/-- An option with its value in the same argument. -/
def ValueOption.attached (o : ValueOption) (value : String) : String := "--" ++ o.name ++ "=" ++ value

/-- A switch that is given if it is on. -/
def Switch.given (w : Switch) (on : Bool) : List String := if on then [w.shown] else []

/-- An option that is given if it has a value. -/
def ValueOption.given (o : ValueOption) (value : Option String) : List String := (value.map o.attached).toList

def Settings.setSwitch (s : Settings) (on : Bool) : Switch → Settings
  | .header => { s with header := on }
  | .nullGuard => { s with nullGuard := on }
  | .noOp => { s with noOp := on }

def Settings.setValue (s : Settings) (value : Option String) : ValueOption → Settings
  | .types => { s with types := value }
  | .out => { s with out := value }

private theorem ofText_shown (w : Switch) : Argument.ofText w.shown = .long w.name none := by
  cases w <;> decide

private theorem ofText_attached (o : ValueOption) (value : String) :
    Argument.ofText (o.attached value) = .long o.name (some value) := by
  cases o <;> simp [Argument.ofText, ValueOption.attached, ValueOption.name]

private theorem longOption?_switch {w : Switch} (offered : w ∈ a.switches) :
    a.longOption? w.name = some (.switch w) := by
  cases a <;> cases w <;> first | rfl | exact absurd offered (by decide)

theorem longOption?_value (a : Action) (o : ValueOption) : a.longOption? o.name = some (.value o) := by
  cases a <;> cases o <;> rfl

private theorem Settings.raise_of_lowered {w : Switch} (lowered : s.isRaised w = false) :
    s.raise w = .ok (s.withSwitch w) := by
  rw [Settings.raise, lowered]
  rfl

theorem Settings.store_of_unset {o : ValueOption} (unset : s.value? o = none) {value : String} (text : value ≠ "") :
    s.store o value = .ok (s.withValue value o) := by
  rw [Settings.store, unset, if_neg (by decide), if_neg text]

section Settled

variable {waiting : Option Waiting} {settled : Settings} (done : s.settle waiting = .ok settled)

include done

theorem takeArguments_shown {w : Switch} (offered : w ∈ a.switches) (lowered : settled.isRaised w = false)
    (rest : List String) :
    takeArguments a s waiting (w.shown :: rest) = takeArguments a (settled.withSwitch w) none rest := by
  have taken : takeLong a s waiting w.name none = .ok (settled.withSwitch w, none) := by
    simp only [takeLong, longOption?_switch offered, done]
    change (stopAtFault (settled.raise w) >>= fun raised => pure (raised, none)) = _
    rw [Settings.raise_of_lowered lowered]
    rfl
  simp only [takeArguments, ofText_shown, taken]
  rfl

theorem takeArguments_attached {o : ValueOption} (unset : settled.value? o = none) {value : String} (text : value ≠ "")
    (rest : List String) :
    takeArguments a s waiting (o.attached value :: rest) = takeArguments a (settled.withValue value o) none rest := by
  have taken : takeLong a s waiting o.name (some value) = .ok (settled.withValue value o, none) := by
    simp only [takeLong, longOption?_value, done]
    change (stopAtFault (settled.store o value) >>= fun stored => pure (stored, none)) = _
    rw [Settings.store_of_unset unset text]
    rfl
  simp only [takeArguments, ofText_attached, taken]
  rfl

end Settled

private theorem takeArguments_switch {w : Switch} (offered : w ∈ a.switches) (lowered : s.isRaised w = false)
    (on : Bool) (rest : List String) : takeArguments a s none (w.given on ++ rest) =
      takeArguments a (s.setSwitch on w) none rest := by
  cases on with
  | false =>
    have same : s.setSwitch false w = s := by
      obtain ⟨_, _, _, _, _⟩ := s
      cases w <;> cases lowered <;> rfl
    rw [same]
    rfl
  | true =>
    have raised : s.setSwitch true w = s.withSwitch w := by cases w <;> rfl
    rw [raised]
    exact takeArguments_shown rfl offered lowered rest

private theorem takeArguments_value {o : ValueOption} (unset : s.value? o = none) {value : Option String}
    (named : value ≠ some "") (rest : List String) : takeArguments a s none (o.given value ++ rest) =
      takeArguments a (s.setValue value o) none rest := by
  cases value with
  | none =>
    have same : s.setValue none o = s := by
      obtain ⟨_, _, _, _, _⟩ := s
      cases o <;> cases unset <;> rfl
    rw [same]
    rfl
  | some v =>
    have stored : s.setValue (some v) o = s.withValue v o := by cases o <;> rfl
    rw [stored]
    exact takeArguments_attached rfl unset (by simpa using named) rest

def Files.arguments (f : Files) : List String :=
  ValueOption.types.given f.types ++ (ValueOption.out.given f.out ++ [])

def Command.arguments : Command → List String
  | .compare files header nullGuard noOp =>
    Action.compare.name :: (Switch.header.given header ++ (Switch.nullGuard.given nullGuard ++
      (Switch.noOp.given noOp ++ files.arguments)))
  | .dict files header noOp =>
    Action.dict.name :: (Switch.header.given header ++ (Switch.noOp.given noOp ++ files.arguments))
  | .table files => Action.table.name :: files.arguments

private theorem takeArguments_files (f : Files) (types : f.types ≠ some "") (out : f.out ≠ some "")
    (noTypes : s.value? .types = none) (noOut : s.value? .out = none) :
    takeArguments a s none f.arguments = .ok { s with types := f.types, out := f.out } := by
  have noOut' : (s.setValue f.types .types).value? .out = none := noOut
  rw [Files.arguments, takeArguments_value noTypes types, takeArguments_value noOut' out]
  rfl

/-- Each command with paths that are not empty is what its command line asks for. -/
theorem parse_arguments (types : c.files.types ≠ some "") (out : c.files.out ≠ some "") :
    Command.parse c.arguments = .ok c := by
  have named (a : Action) : Action.ofName? a.name = some a := by cases a <;> decide
  cases c with
  | compare files header nullGuard noOp =>
    simp only [Command.arguments, Command.parse, named]
    rw [takeArguments_switch (by decide) rfl, takeArguments_switch (by decide) rfl,
      takeArguments_switch (by decide) rfl, takeArguments_files files types out rfl rfl]
    rfl
  | dict files header noOp =>
    simp only [Command.arguments, Command.parse, named]
    rw [takeArguments_switch (by decide) rfl, takeArguments_switch (by decide) rfl,
      takeArguments_files files types out rfl rfl]
    rfl
  | table files =>
    simp only [Command.arguments, Command.parse, named]
    rw [takeArguments_files files types out rfl rfl]
    rfl

end CollectionGlue
