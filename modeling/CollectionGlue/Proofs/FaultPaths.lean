import CollectionGlue.Proofs.OpenSpellings

/-! # The path of a fault

Each step from a value to its part is noted when a fault of the part is passed on. A fault inside a literal,
a string or a numeral is a fault of that value itself, so the path stops there.
-/
namespace CollectionGlue

variable {α β σ : Type} {s t r : List Char} {path : List Step}

/-- A reader fails, and the fault is at `path` from where the reader stands. -/
def FailsAt (path : List Step) (x : Except Fault α) : Prop := ∃ fault, x = .error fault ∧ fault.path = path

theorem FailsAt.within {x : Except Fault α} (h : FailsAt path x) (step : Step) :
    FailsAt (step :: path) (CollectionGlue.within step x) := by
  obtain ⟨fault, rfl, rfl⟩ := h
  exact ⟨fault.within step, rfl, rfl⟩

theorem FailsAt.map {x : Except Fault α} (h : FailsAt path x) (f : α → β) : FailsAt path (x.map f) := by
  obtain ⟨fault, rfl, same⟩ := h
  exact ⟨fault, rfl, same⟩

theorem FailsAt.bind {x : Except Fault α} (h : FailsAt path x) (f : α → Except Fault β) :
    FailsAt path (x >>= f) := by
  obtain ⟨fault, rfl, same⟩ := h
  exact ⟨fault, rfl, same⟩

/-- A reader that can only fail at the value it was given. -/
def FailsHere (x : Except Fault α) : Prop := ∀ fault, x = .error fault → fault.path = []

private theorem failsHere_ok (a : α) : FailsHere (.ok a) := nofun

private theorem failsHere_error {fault : Fault} (here : fault.path = []) :
    FailsHere (.error fault : Except Fault α) := by
  rintro _ ⟨⟩
  exact here

theorem FailsHere.bind {x : Except Fault α} {f : α → Except Fault β} (h : FailsHere x)
    (later : ∀ a, FailsHere (f a)) : FailsHere (x >>= f) := by
  cases x with
  | error fault => exact failsHere_error (h fault rfl)
  | ok a => exact later a

theorem FailsHere.map {x : Except Fault α} (h : FailsHere x) (f : α → β) : FailsHere (x.map f) := by
  cases x with
  | error fault => exact failsHere_error (h fault rfl)
  | ok a => exact failsHere_ok (f a)

private theorem failsHere_scanLiteral (letters s : List Char) : FailsHere (scanLiteral letters s) := by
  induction letters generalizing s with
  | nil => exact failsHere_ok s
  | cons letter letters ih =>
    cases s with
    | nil => exact failsHere_error rfl
    | cons c s =>
      rw [scanLiteral]
      split
      · exact ih s
      · exact failsHere_error rfl

private theorem failsHere_scanCodeUnit (s : List Char) : FailsHere (scanCodeUnit s) := by
  unfold scanCodeUnit
  split
  · exact failsHere_ok _
  · split <;> exact failsHere_error rfl

private theorem failsHere_scanPairLink (link : Char) (s : List Char) : FailsHere (scanPairLink link s) := by
  unfold scanPairLink
  split
  · exact failsHere_error rfl
  · split
    · exact failsHere_ok _
    · exact failsHere_error rfl

private theorem failsHere_scanUnicodeEscape (s : List Char) : FailsHere (scanUnicodeEscape s) := by
  unfold scanUnicodeEscape
  refine (failsHere_scanCodeUnit s).bind fun ⟨n, r⟩ => ?_
  dsimp only
  split_ifs
  · exact failsHere_error rfl
  · refine (failsHere_scanPairLink _ _).bind fun r => (failsHere_scanPairLink _ _).bind fun r => ?_
    refine (failsHere_scanCodeUnit r).bind fun ⟨m, r⟩ => ?_
    dsimp only
    split_ifs
    · exact failsHere_ok _
    · exact failsHere_error rfl
  · exact failsHere_ok _

private theorem failsHere_scanEscape (s : List Char) : FailsHere (scanEscape s) := by
  unfold scanEscape
  split
  · exact failsHere_error rfl
  · split
    · exact failsHere_scanUnicodeEscape _
    · split
      · exact failsHere_ok _
      · exact failsHere_error rfl

private theorem failsHere_scanString (s : List Char) : FailsHere (scanString s) := by
  fun_induction scanString s with
  | case1 => exact failsHere_error rfl
  | case2 => exact failsHere_ok _
  | case3 s meant r escape _ ih => exact ih.map _
  | case4 s fault escape => exact failsHere_error (failsHere_scanEscape _ _ escape)
  | case5 => exact failsHere_error rfl
  | case6 c s _ _ _ ih => exact ih.map _

private theorem failsHere_scanWhole (atEnd : Cause) (s : List Char) : FailsHere (scanWhole atEnd s) := by
  unfold scanWhole
  split
  · exact failsHere_error rfl
  · split_ifs
    · exact failsHere_error rfl
    · exact failsHere_ok _
    · exact failsHere_ok _
    · exact failsHere_error rfl

private theorem failsHere_scanSomeDigits (atEnd : Cause) (s : List Char) : FailsHere (scanSomeDigits atEnd s) := by
  unfold scanSomeDigits
  split
  · exact failsHere_error rfl
  · split
    · exact failsHere_ok _
    · exact failsHere_error rfl

private theorem failsHere_scanFraction (atEnd : Cause) (s : List Char) : FailsHere (scanFraction atEnd s) := by
  unfold scanFraction
  split
  · exact failsHere_ok _
  · split
    · exact failsHere_scanSomeDigits atEnd _
    · exact failsHere_ok _

private theorem failsHere_scanExponent (atEnd : Cause) (s : List Char) : FailsHere (scanExponent atEnd s) := by
  unfold scanExponent
  split
  · exact failsHere_ok _
  · split
    · exact (failsHere_scanSomeDigits atEnd _).map _
    · exact failsHere_ok _

private theorem failsHere_scanNumeral (atEnd : Cause) (s : List Char) : FailsHere (scanNumeral atEnd s) := by
  refine (failsHere_scanWhole atEnd _).bind fun ⟨whole, r⟩ => ?_
  refine (failsHere_scanFraction atEnd r).bind fun ⟨fraction, r⟩ => ?_
  exact (failsHere_scanExponent atEnd r).bind fun ⟨exponent, r⟩ => failsHere_ok _

private theorem failsHere_scanNumber (s : List Char) : FailsHere (scanNumber s) := by
  refine (failsHere_scanNumeral _ s).bind fun ⟨numeral, r⟩ => ?_
  dsimp only
  split
  · exact failsHere_ok _
  · exact failsHere_error rfl

/-- A value of another type than the wanted one is a fault of that value. -/
theorem path_mismatch (wanted : Wanted) (s : List Char) : (mismatch wanted s).path = [] := by
  unfold mismatch
  split
  · rfl
  · dsimp only
    split_ifs
    -- The three literals, the strings and the numerals are read before their type is refused.
    iterate 3
      · split
        · rfl
        · rename_i failed
          exact failsHere_scanLiteral _ _ _ failed
    · split
      · rfl
      · rename_i failed
        exact failsHere_scanString _ _ failed
    · split
      · rfl
      · rename_i failed
        exact failsHere_scanNumber _ _ failed
    · rfl
    · rfl
    · rfl

theorem failsHere_scanSignednessName (s : List Char) : FailsHere (scanSignednessName s) := by
  refine (failsHere_scanString s).bind fun ⟨text, r⟩ => ?_
  dsimp only
  split
  · exact failsHere_ok _
  · exact failsHere_error rfl

theorem failsAt_scanField {scan : List Char → Except Fault (α × List Char)} {given : Option α}
    (h : FailsAt path (scan t)) (new : given.isSome = false) (colon : Gap s (':' :: t)) (key : String) :
    FailsAt (.key key :: path) (scanField given key scan s) := by
  unfold scanField
  rw [if_neg (by rw [new]; decide), scanColon_eq_ok_iff.2 colon]
  exact h.within _

theorem failsAt_scanField_given {scan : List Char → Except Fault (α × List Char)} {given : Option α}
    (has : given.isSome = true) (key : String) (s : List Char) : FailsAt [] (scanField given key scan s) := by
  unfold scanField
  rw [if_pos has]
  exact ⟨_, rfl, rfl⟩

/-- A record fails as its next member does. -/
theorem failsAt_scan {shape : RecordShape σ} {given : σ} {first : Bool} {key : String}
    (h : FailsAt path (shape.member given key t)) (name : KeyAt first key s t) :
    FailsAt path (shape.scan first given s) := by
  rw [RecordShape.scan_eq, within_eq_ok_iff.2 name.nextKey_eq]
  change FailsAt path (shape.member given key t >>= _)
  exact h.bind _

/-- A list of entries fails as its next entry does. -/
theorem failsAt_scanEntriesFrom {index : Nat} (joint : Joint (index == 0) s t) (brace : Gap t ('\x7b' :: r))
    (h : FailsAt path (scanEntryRecord r)) : FailsAt (.index index :: path) (scanEntriesFrom index s) := by
  have next := joint.nextElement_eq_cons brace (by decide)
  have entry : scanEntry ('\x7b' :: r) = scanEntryRecord r := by
    unfold scanEntry
    rw [skipBlanks_cons (by decide)]
    rfl
  rw [scanEntriesFrom_eq, next]
  change FailsAt _ (within (.index index) (scanEntry ('\x7b' :: r)) >>= _)
  rw [entry]
  exact (h.within _).bind _

theorem failsAt_scanEntries (bracket : Gap s ('[' :: t)) (h : FailsAt path (scanEntriesFrom 0 t)) :
    FailsAt path (scanEntries s) := by
  unfold scanEntries
  rw [bracket.skipBlanks_eq_cons (by decide)]
  exact h

theorem failsAt_scanTable (brace : Gap s ('\x7b' :: t)) (h : FailsAt path (tableShape.scan true none t)) :
    FailsAt path (scanTable s) := by
  unfold scanTable
  rw [brace.skipBlanks_eq_cons (by decide)]
  exact h.bind _

end CollectionGlue
