import CollectionGlue.Proofs.CommandSpellings
import CollectionGlue.Proofs.TreeSteps

/-! # Options in every order and every spelling

Behind the name of an action the options stand in any order, and a value stands in the argument of its option or in
one of its own. A value of its own is stored only when the next option or the end comes, so at any place between two
options it is the settings with what waits that hold the options so far.
-/
namespace CollectionGlue

/-- An option that is given. -/
inductive Choice
  | switch (w : Switch)
  | value (o : ValueOption) (text : String)
  deriving DecidableEq, Repr

def Choice.option : Choice → Switch ⊕ ValueOption
  | .switch w => .inl w
  | .value o _ => .inr o

/-- Only switches of the action can be given, and only values that are not empty. -/
def Choice.Admitted (a : Action) : Choice → Prop
  | .switch w => w ∈ a.switches
  | .value _ text => text ≠ ""

instance (a : Action) : (choice : Choice) → Decidable (choice.Admitted a)
  | .switch w => inferInstanceAs (Decidable (w ∈ a.switches))
  | .value _ text => inferInstanceAs (Decidable (text ≠ ""))

/-- A value that can be an argument of its own: it does not begin like an option, or is a lone dash. -/
def StandsAlone (value : String) : Prop := value.toList.head? ≠ some '-' ∨ value = "-"

instance (value : String) : Decidable (StandsAlone value) :=
  inferInstanceAs (Decidable (value.toList.head? ≠ some '-' ∨ value = "-"))

/-- The arguments that give one option. -/
inductive Choice.Written : Choice → List String → Prop
  | switch (w : Switch) : Written (.switch w) ["--" ++ w.name]
  | attached (o : ValueOption) (value : String) : Written (.value o value) ["--" ++ o.name ++ "=" ++ value]
  | detached (o : ValueOption) {value : String} (alone : StandsAlone value) :
      Written (.value o value) ["--" ++ o.name, value]
  | letterDetached {value : String} (alone : StandsAlone value) : Written (.value .out value) ["-o", value]
  | letterAttached {value : String} (plain : value.toList.head? ≠ some '=') : Written (.value .out value) ["-o" ++ value]
  | letterAssigned (value : String) : Written (.value .out value) ["-o=" ++ value]

/-- The arguments that give the options of a list in the order of the list, each of them in a spelling of its own. -/
inductive WrittenInOrder : List Choice → List String → Prop
  | nil : WrittenInOrder [] []
  | cons {choice : Choice} {piece : List String} {later : List Choice} {arguments : List String}
      (first : choice.Written piece) (rest : WrittenInOrder later arguments) :
      WrittenInOrder (choice :: later) (piece ++ arguments)

/-- Settings with the given options and no others. -/
structure Settings.Hold (s : Settings) (given : List Choice) : Prop where
  raised : ∀ w, s.isRaised w = true ↔ .switch w ∈ given
  stored : ∀ o text, s.value? o = some text ↔ .value o text ∈ given

structure Files.NamedBy (f : Files) (given : List Choice) : Prop where
  types : ∀ text, f.types = some text ↔ .value .types text ∈ given
  out : ∀ text, f.out = some text ↔ .value .out text ∈ given

/-- The command of an action that has the given options and no others. -/
inductive MadeOf (given : List Choice) : Action → Command → Prop
  | compare {files : Files} {header nullGuard noOp : Bool} (named : files.NamedBy given)
      (header_iff : header = true ↔ .switch .header ∈ given)
      (nullGuard_iff : nullGuard = true ↔ .switch .nullGuard ∈ given)
      (noOp_iff : noOp = true ↔ .switch .noOp ∈ given) :
      MadeOf given .compare (.compare files header nullGuard noOp)
  | dict {files : Files} {header noOp : Bool} (named : files.NamedBy given)
      (header_iff : header = true ↔ .switch .header ∈ given)
      (noOp_iff : noOp = true ↔ .switch .noOp ∈ given) : MadeOf given .dict (.dict files header noOp)
  | table {files : Files} (named : files.NamedBy given) : MadeOf given .table (.table files)

def Settings.withChoice (s : Settings) : Choice → Settings
  | .switch w => s.withSwitch w
  | .value o text => s.withValue text o

variable {a : Action} {s settled : Settings} {waiting : Option Waiting} {choice : Choice} {given before : List Choice}
  {piece arguments : List String}

@[simp] theorem Settings.isRaised_withSwitch (s : Settings) (w w' : Switch) :
    (s.withSwitch w).isRaised w' = (decide (w' = w) || s.isRaised w') := by
  cases w <;> cases w' <;> rfl

@[simp] theorem Settings.value?_withSwitch (s : Settings) (w : Switch) (o : ValueOption) :
    (s.withSwitch w).value? o = s.value? o := by
  cases w <;> cases o <;> rfl

@[simp] theorem Settings.isRaised_withValue (s : Settings) (text : String) (o : ValueOption) (w : Switch) :
    (s.withValue text o).isRaised w = s.isRaised w := by
  cases o <;> cases w <;> rfl

@[simp] theorem Settings.value?_withValue (s : Settings) (text : String) (o o' : ValueOption) :
    (s.withValue text o).value? o' = if o' = o then some text else s.value? o' := by
  cases o <;> cases o' <;> rfl

private theorem Settings.Hold.congr (h : s.Hold before) (same : ∀ c, c ∈ before ↔ c ∈ given) : s.Hold given :=
  ⟨fun w => (h.raised w).trans (same _), fun o text => (h.stored o text).trans (same _)⟩

theorem Settings.Hold.unique {s' : Settings} (h : s.Hold given) (h' : s'.Hold given) : s = s' := by
  have raised (w : Switch) : s.isRaised w = s'.isRaised w := Bool.eq_iff_iff.2 ((h.raised w).trans (h'.raised w).symm)
  have stored (o : ValueOption) : s.value? o = s'.value? o :=
    Option.ext fun text => (h.stored o text).trans (h'.stored o text).symm
  obtain ⟨_, _, _, _, _⟩ := s
  obtain ⟨_, _, _, _, _⟩ := s'
  cases stored .types
  cases stored .out
  cases raised .header
  cases raised .nullGuard
  cases raised .noOp
  rfl

private theorem Settings.Hold.madeOf (h : s.Hold given) (a : Action) : MadeOf given a (s.command a) := by
  have named : s.files.NamedBy given := ⟨h.stored .types, h.stored .out⟩
  cases a with
  | compare => exact .compare named (h.raised .header) (h.raised .nullGuard) (h.raised .noOp)
  | dict => exact .dict named (h.raised .header) (h.raised .noOp)
  | table => exact .table named

private theorem Settings.hold_initial : Settings.initial.Hold [] := by
  constructor
  · intro w
    cases w <;> simp [Settings.initial, Settings.isRaised]
  · intro o text
    cases o <;> simp [Settings.initial, Settings.value?]

theorem Settings.Hold.lowered {w : Switch} (h : s.Hold before)
    (new : (Choice.switch w).option ∉ before.map Choice.option) : s.isRaised w = false := by
  rw [Bool.eq_false_iff]
  exact fun on => new (List.mem_map_of_mem ((h.raised w).1 on))

theorem Settings.Hold.unset {o : ValueOption} {text : String} (h : s.Hold before)
    (new : (Choice.value o text).option ∉ before.map Choice.option) : s.value? o = none := by
  rw [Option.eq_none_iff_forall_ne_some]
  exact fun earlier found => new (List.mem_map.2 ⟨_, (h.stored o earlier).1 found, rfl⟩)

private theorem Settings.Hold.withChoice (h : s.Hold before) (new : choice.option ∉ before.map Choice.option) :
    (s.withChoice choice).Hold (choice :: before) := by
  cases choice with
  | switch w =>
    refine ⟨fun w' => ?_, fun o text => ?_⟩
    · simp [Settings.withChoice, h.raised]
    · simp [Settings.withChoice, h.stored]
  | value o text =>
    have unset := h.unset new
    refine ⟨fun w => ?_, fun o' text' => ?_⟩
    · simp [Settings.withChoice, h.raised]
    · by_cases same : o' = o
      · subst same
        have absent : .value o' text' ∉ before := by
          rw [← h.stored, unset]
          exact (Option.some_ne_none text').symm
        simp [Settings.withChoice, absent, eq_comm]
      · simp [Settings.withChoice, h.stored, same]

private theorem ofText_detached (o : ValueOption) : Argument.ofText ("--" ++ o.name) = .long o.name none := by
  cases o <;> decide

private theorem ofText_standsAlone {value : String} (alone : StandsAlone value) : Argument.ofText value = .word := by
  rcases alone with front | rfl
  · unfold Argument.ofText
    cases text : value.toList with
    | nil => rfl
    | cons c cs =>
      have other : c ≠ '-' := by simpa [text] using front
      simp [other]
  · rfl

private theorem ofText_letterWith (c : Char) (cs : List Char) :
    Argument.ofText ("-o" ++ String.ofList (c :: cs)) = .short 'o' (c :: cs) := by
  simp [Argument.ofText]

private theorem takeArguments_detached (done : s.settle waiting = .ok settled) (o : ValueOption) {value : String}
    (alone : StandsAlone value) (rest : List String) :
    takeArguments a s waiting (("--" ++ o.name) :: value :: rest) =
      takeArguments a settled (some ⟨o, some value⟩) rest := by
  have taken : takeLong a s waiting o.name none = .ok (settled, some ⟨o, none⟩) := by
    simp only [takeLong, longOption?_value, done]
    rfl
  simp only [takeArguments, ofText_detached, ofText_standsAlone alone, taken]
  rfl

private theorem takeArguments_letterDetached (done : s.settle waiting = .ok settled) {value : String}
    (alone : StandsAlone value) (rest : List String) :
    takeArguments a s waiting ("-o" :: value :: rest) = takeArguments a settled (some ⟨.out, some value⟩) rest := by
  have letter : Argument.ofText "-o" = .short 'o' [] := by decide
  have taken : takeShort a s waiting 'o' [] = .ok (settled, some ⟨.out, none⟩) := by
    simp only [takeShort, done]
    rfl
  simp only [takeArguments, letter, ofText_standsAlone alone, taken]
  rfl

/-- The letter with a value behind it, from which an equals sign in front is taken off. -/
theorem takeArguments_letterWith (done : s.settle waiting = .ok settled) (unset : settled.value? .out = none)
    {c : Char} {cs : List Char} (text : String.ofList (if c = '=' then cs else c :: cs) ≠ "") (rest : List String) :
    takeArguments a s waiting (("-o" ++ String.ofList (c :: cs)) :: rest) =
      takeArguments a (settled.withValue (String.ofList (if c = '=' then cs else c :: cs)) .out) none rest := by
  have taken : takeShort a s waiting 'o' (c :: cs) =
      .ok (settled.withValue (String.ofList (if c = '=' then cs else c :: cs)) .out, none) := by
    simp only [takeShort, done]
    change (stopAtFault (settled.store .out _) >>= fun stored => pure (stored, none)) = _
    rw [Settings.store_of_unset unset text]
    rfl
  simp only [takeArguments, ofText_letterWith, taken]
  rfl

private theorem takeArguments_letterAttached (done : s.settle waiting = .ok settled)
    (unset : settled.value? .out = none)
    {value : String} (text : value ≠ "") (plain : value.toList.head? ≠ some '=') (rest : List String) :
    takeArguments a s waiting (("-o" ++ value) :: rest) = takeArguments a (settled.withValue value .out) none rest := by
  obtain ⟨c, cs, chars⟩ := List.exists_cons_of_ne_nil (mt String.toList_eq_nil_iff.1 text)
  have other : c ≠ '=' := by simpa [chars] using plain
  have whole : String.ofList (if c = '=' then cs else c :: cs) = value := by
    rw [if_neg other, ← chars, String.ofList_toList]
  have written : "-o" ++ value = "-o" ++ String.ofList (c :: cs) := by rw [← chars, String.ofList_toList]
  rw [written, takeArguments_letterWith done unset (whole ▸ text), whole]

private theorem takeArguments_letterAssigned (done : s.settle waiting = .ok settled)
    (unset : settled.value? .out = none) {value : String} (text : value ≠ "") (rest : List String) :
    takeArguments a s waiting (("-o=" ++ value) :: rest) = takeArguments a (settled.withValue value .out) none rest := by
  have whole : String.ofList (if '=' = '=' then value.toList else '=' :: value.toList) = value := by simp
  have written : "-o=" ++ value = "-o" ++ String.ofList ('=' :: value.toList) := String.toList_inj.1 (by simp)
  rw [written, takeArguments_letterWith done unset (by simpa using text), whole]

/-- One option more, in any spelling: the settings, with what waits, hold it too. -/
theorem takeArguments_choice (written : choice.Written piece) (admitted : choice.Admitted a)
    (done : s.settle waiting = .ok settled) (hold : settled.Hold before)
    (new : choice.option ∉ before.map Choice.option) :
    ∃ s' waiting', s'.settle waiting' = .ok (settled.withChoice choice) ∧
      ∀ rest, takeArguments a s waiting (piece ++ rest) = takeArguments a s' waiting' rest := by
  cases written with
  | switch w =>
    exact ⟨_, none, rfl, takeArguments_shown done admitted (hold.lowered new)⟩
  | attached o value =>
    exact ⟨_, none, rfl, takeArguments_attached done (hold.unset new) admitted⟩
  | detached o alone =>
    exact ⟨settled, some ⟨o, some _⟩, Settings.store_of_unset (hold.unset new) admitted, takeArguments_detached done o alone⟩
  | letterDetached alone =>
    exact ⟨settled, some ⟨.out, some _⟩, Settings.store_of_unset (hold.unset new) admitted,
      takeArguments_letterDetached done alone⟩
  | letterAttached plain =>
    exact ⟨_, none, rfl, takeArguments_letterAttached done (hold.unset new) admitted plain⟩
  | letterAssigned value =>
    exact ⟨_, none, rfl, takeArguments_letterAssigned done (hold.unset new) admitted⟩

/-- The run over the options of a list, none of which was among those before. -/
theorem takeArguments_writtenInOrder (written : WrittenInOrder given arguments)
    (admitted : ∀ choice ∈ given, choice.Admitted a) (once : (given.map Choice.option).Nodup)
    (new : ∀ choice ∈ given, choice.option ∉ before.map Choice.option)
    (done : s.settle waiting = .ok settled) (hold : settled.Hold before) :
    ∃ final : Settings, final.Hold (given.reverse ++ before) ∧ takeArguments a s waiting arguments = .ok final := by
  -- What waits is settled by the option that comes next, so the invariant speaks of the settled settings.
  induction written generalizing s waiting settled before with
  | nil =>
    refine ⟨settled, hold, ?_⟩
    rw [takeArguments, done]
    rfl
  | @cons choice piece later arguments first rest ih =>
    obtain ⟨admittedFirst, admittedLater⟩ := List.forall_mem_cons.1 admitted
    obtain ⟨newFirst, newLater⟩ := List.forall_mem_cons.1 new
    obtain ⟨apart, once⟩ := List.nodup_cons.1 once
    obtain ⟨s', waiting', done', taken⟩ := takeArguments_choice first admittedFirst done hold newFirst
    have newNext : ∀ c ∈ later, c.option ∉ (choice :: before).map Choice.option := by
      intro c mem
      rw [List.map_cons, List.mem_cons, not_or]
      exact ⟨fun same => apart (same ▸ List.mem_map_of_mem mem), newLater c mem⟩
    obtain ⟨final, holds, whole⟩ := ih admittedLater once newNext done' (hold.withChoice newFirst)
    refine ⟨final, ?_, (taken arguments).trans whole⟩
    rwa [List.reverse_cons, List.append_assoc]

private theorem parse_of_writtenInOrder (written : WrittenInOrder given arguments)
    (admitted : ∀ choice ∈ given, choice.Admitted a) (once : (given.map Choice.option).Nodup) :
    ∃ settings : Settings, settings.Hold given ∧
      Command.parse (a.name :: arguments) = .ok (settings.command a) := by
  have named : Action.ofName? a.name = some a := by cases a <;> decide
  have start : Settings.initial.settle none = .ok Settings.initial := rfl
  have new : ∀ choice ∈ given, choice.option ∉ ([] : List Choice).map Choice.option := by simp
  obtain ⟨final, hold, taken⟩ := takeArguments_writtenInOrder written admitted once new start Settings.hold_initial
  refine ⟨final, hold.congr (by simp), ?_⟩
  rw [Command.parse, named]
  simp only [taken]
  rfl

/-- Options of an action that are each given once make up the same command in every spelling and every order: the
action with these options and no others. So the program runs alike on all of the command lines. -/
theorem parse_writtenInOrder (admitted : ∀ choice ∈ given, choice.Admitted a) (once : (given.map Choice.option).Nodup)
    (written : WrittenInOrder given arguments) :
    ∃ c, MadeOf given a c ∧ Command.parse (a.name :: arguments) = .ok c ∧
      ∀ others otherArguments, others.Perm given → WrittenInOrder others otherArguments →
        Command.parse (a.name :: otherArguments) = .ok c ∧
        ∀ level t, runProgram level (a.name :: otherArguments) t = runProgram level (a.name :: arguments) t := by
  obtain ⟨settings, hold, parsed⟩ := parse_of_writtenInOrder written admitted once
  refine ⟨settings.command a, hold.madeOf a, parsed, fun others otherArguments same written' => ?_⟩
  obtain ⟨settings', hold', parsed'⟩ := parse_of_writtenInOrder written'
    (fun choice mem => admitted choice (same.subset mem)) ((same.map Choice.option).nodup_iff.2 once)
  -- Settings are determined by the options that they hold, whatever their order was.
  obtain rfl := (hold'.congr fun _ => same.mem_iff).unique hold
  refine ⟨parsed', fun level t => ?_⟩
  rw [runProgram_of_parse t parsed, runProgram_of_parse t parsed']

/-- Three options, one of them with a value that could name an action and one with a value that begins with the sign
that parts a value from its letter. -/
def mixedChoices : List Choice := [.value .types "compare", .switch .header, .value .out "=x"]

private theorem written_mixedChoices : WrittenInOrder mixedChoices ["--types", "compare", "--header", "-o==x"] :=
  .cons (.detached .types (by decide)) (.cons (.switch .header) (.cons (.letterAssigned "=x") .nil))

theorem parse_mixedChoices :
    (∀ choice ∈ mixedChoices, choice.Admitted .dict) ∧ (mixedChoices.map Choice.option).Nodup ∧
      WrittenInOrder mixedChoices ["--types", "compare", "--header", "-o==x"] ∧
      ∃ c, MadeOf mixedChoices .dict c ∧
        Command.parse [Action.dict.name, "--types", "compare", "--header", "-o==x"] = .ok c ∧
        ∀ others otherArguments, others.Perm mixedChoices → WrittenInOrder others otherArguments →
          Command.parse (Action.dict.name :: otherArguments) = .ok c ∧
          ∀ level t, runProgram level (Action.dict.name :: otherArguments) t =
            runProgram level [Action.dict.name, "--types", "compare", "--header", "-o==x"] t :=
  have admitted : ∀ choice ∈ mixedChoices, choice.Admitted .dict := by decide
  have once : (mixedChoices.map Choice.option).Nodup := by decide
  ⟨admitted, once, written_mixedChoices, parse_writtenInOrder admitted once written_mixedChoices⟩

end CollectionGlue
