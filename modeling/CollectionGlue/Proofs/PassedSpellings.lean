import CollectionGlue.PassedValues
import CollectionGlue.Proofs.SpelledValues
import Mathlib.Tactic.SplitIfs

/-! # What is passed over is a value, and every value is passed over

The brackets that are still open stand in a list, so a spelling inside them is followed by what is owed to
that list. `Part.Passed` says so of each part of the grammar, and is shown by induction on the spelling.
The other direction is by induction on the length of the text, for both functions at once.
-/
namespace CollectionGlue

variable {tree : JsonTree} {s t r : List Char} {outer : List Bracket}

theorem scanLiteral_eq_ok_iff {letters : List Char} : scanLiteral letters s = .ok r ↔ s = letters ++ r := by
  induction letters generalizing s with
  | nil =>
    rw [scanLiteral, Except.ok.injEq, List.nil_append]
  | cons e es ih =>
    cases s with
    | nil => constructor <;> (intro h; cases h)
    | cons c s =>
      rw [scanLiteral, List.cons_append, List.cons.injEq]
      split
      · rename_i same
        rw [ih]
        exact (and_iff_right same).symm
      · rename_i other
        constructor
        · intro h
          cases h
        · rintro ⟨same, -⟩
          exact absurd same other

theorem scanColon_eq_ok_iff : scanColon s = .ok r ↔ Gap s (':' :: r) := by
  unfold scanColon
  constructor
  · intro h
    split at h
    · cases h
    · rename_i c t found
      split at h
      · rename_i colon
        cases h
        exact gap_of_skipBlanks_eq (colon ▸ found)
      · cases h
  · intro gap
    rw [gap.skipBlanks_eq_cons (by decide)]
    rfl

theorem passKey_eq_ok_iff :
    passKey s = .ok r ↔ ∃ key t u, Gap s ('"' :: t) ∧ Characters key t u ∧ Gap u (':' :: r) := by
  unfold passKey
  constructor
  · intro h
    split at h
    · cases h
    · rename_i c t found
      split at h
      · rename_i quote
        obtain ⟨u, passed, colon⟩ := bind_eq_ok_iff.1 h
        obtain ⟨key, name⟩ := passString_eq_ok_iff.1 passed
        exact ⟨key, t, u, gap_of_skipBlanks_eq (quote ▸ found), name, scanColon_eq_ok_iff.1 colon⟩
      · cases h
  · rintro ⟨key, t, u, gap, name, colon⟩
    rw [gap.skipBlanks_eq_cons (by decide)]
    exact bind_eq_ok_iff.2 ⟨u, passString_eq_ok_iff.2 ⟨key, name⟩, scanColon_eq_ok_iff.2 colon⟩

private theorem ne_of_opensNumeral {c d : Char} (first : opensNumeral c = true) (other : opensNumeral d = false) :
    c ≠ d := by
  rintro rfl
  rw [first] at other
  cases other

private theorem passScalar_of_opensNumeral {c : Char} (first : opensNumeral c = true) (s : List Char) :
    passScalar (c :: s) = (scanNumeral .invalidNumber (c :: s)).map (·.2) := by
  have digit : c = '-' ∨ c.isDigit = true := by simpa [opensNumeral] using first
  rw [passScalar, if_neg (ne_of_opensNumeral first (by decide)),
    if_neg (ne_of_opensNumeral first (by decide)), if_neg (ne_of_opensNumeral first (by decide)),
    if_neg (ne_of_opensNumeral first (by decide)), if_pos digit]

private theorem spells_of_passScalar (h : passScalar s = .ok r) : ∃ tree, Spells (.value tree) s r := by
  cases s with
  | nil => cases h
  | cons c s =>
    rw [passScalar] at h
    split_ifs at h with null yes no quote numeral
    · rw [scanLiteral_eq_ok_iff] at h
      subst null h
      exact ⟨.null, .null r⟩
    · rw [scanLiteral_eq_ok_iff] at h
      subst yes h
      exact ⟨.boolean true, .yes r⟩
    · rw [scanLiteral_eq_ok_iff] at h
      subst no h
      exact ⟨.boolean false, .no r⟩
    · obtain ⟨units, text⟩ := passString_eq_ok_iff.1 h
      subst quote
      exact ⟨.string units, .string text⟩
    · obtain ⟨⟨found, r'⟩, scanned, rfl⟩ := map_eq_ok_iff.1 h
      obtain ⟨text, form, whole⟩ := scanNumeral_eq_ok scanned
      rw [whole]
      exact ⟨.numeral text, .numeral form r'⟩

private theorem Gap.passKey_eq {key : List UInt16} {u v : List Char} (quote : Gap s ('"' :: u))
    (name : Characters key u v) (colon : Gap v (':' :: r)) : passKey s = .ok r :=
  passKey_eq_ok_iff.2 ⟨key, u, v, quote, name, colon⟩

private theorem passInside_eq (outer : List Bracket) (s : List Char) :
    passInside outer s =
      match skipBlanks s with
      | [] => .error (.behind .endInValue [])
      | c :: r =>
        if c = '[' then
          match skipBlanks r with
          | [] => .error (.behind .endInList [])
          | d :: t => if d = ']' then passAfter outer t else passInside (.list :: outer) (d :: t)
        else if c = '\x7b' then
          match skipBlanks r with
          | [] => .error (.behind .endInRecord [])
          | d :: t =>
            if d = '\x7d' then passAfter outer t
            else passKey (d :: t) >>= passInside (.record :: outer)
        else passScalar (c :: r) >>= passAfter outer := by
  rw [passInside]
  split <;> rename_i h <;> rw [h]
  dsimp only
  split_ifs
  · split <;> rename_i h' <;> rw [h']
  · split <;> rename_i h' <;> rw [h']
    dsimp only
    split_ifs
    · rfl
    · split <;> rename_i h'' <;> rw [h''] <;> rfl
  · split <;> rename_i h' <;> rw [h'] <;> rfl

private theorem passAfter_list_eq (outer : List Bracket) (s : List Char) :
    passAfter (.list :: outer) s =
      match skipBlanks s with
      | [] => .error (.behind .endInList [])
      | c :: r =>
        if c = ',' then passInside (.list :: outer) r
        else if c = ']' then passAfter outer r
        else .error (.upon .expectedListSeparator (c :: r)) := by
  rw [passAfter.eq_def]
  dsimp only
  split <;> rename_i h <;> rw [h]

private theorem passAfter_record_eq (outer : List Bracket) (s : List Char) :
    passAfter (.record :: outer) s =
      match skipBlanks s with
      | [] => .error (.behind .endInRecord [])
      | c :: r =>
        if c = ',' then passKey r >>= passInside (.record :: outer)
        else if c = '\x7d' then passAfter outer r
        else .error (.upon .expectedRecordSeparator (c :: r)) := by
  rw [passAfter.eq_def]
  dsimp only
  split <;> rename_i h <;> rw [h]
  dsimp only
  split_ifs
  · split <;> rename_i h' <;> rw [h'] <;> rfl
  · rfl
  · rfl

private theorem passAfter_nil (s : List Char) : passAfter [] s = .ok s := by rw [passAfter]

private theorem passInside_skipBlanks (outer : List Bracket) (s : List Char) :
    passInside outer (skipBlanks s) = passInside outer s := by
  rw [passInside_eq, passInside_eq outer s, ← (gap_skipBlanks s).skipBlanks_eq]

private theorem passInside_of_passScalar {c : Char} (dark : isBlank c = false) (list : c ≠ '[')
    (record : c ≠ '\x7b') (h : passScalar (c :: s) = .ok r) (outer : List Bracket) :
    passInside outer (c :: s) = passAfter outer r := by
  rw [passInside_eq, skipBlanks_cons dark]
  dsimp only
  rw [if_neg list, if_neg record, h]
  rfl

private theorem passInside_of_emptyList (close : Gap s (']' :: r)) (outer : List Bracket) :
    passInside outer ('[' :: s) = passAfter outer r := by
  rw [passInside_eq, skipBlanks_cons (by decide)]
  dsimp only
  rw [if_pos rfl, close.skipBlanks_eq_cons (by decide)]
  exact if_pos rfl

private theorem passInside_of_list (value : Spells (.spaced tree) s r) (outer : List Bracket) :
    passInside outer ('[' :: s) = passInside (.list :: outer) s := by
  obtain ⟨c, t, found, bare⟩ := value.opens
  rw [passInside_eq, skipBlanks_cons (by decide)]
  dsimp only
  rw [if_pos rfl, found]
  dsimp only
  rw [if_neg bare.dark.2, ← found, passInside_skipBlanks]

private theorem passInside_of_emptyRecord (close : Gap s ('\x7d' :: r)) (outer : List Bracket) :
    passInside outer ('\x7b' :: s) = passAfter outer r := by
  rw [passInside_eq, skipBlanks_cons (by decide)]
  dsimp only
  rw [if_neg (by decide), if_pos rfl, close.skipBlanks_eq_cons (by decide)]
  exact if_pos rfl

private theorem passInside_of_record {key : List UInt16} {u v : List Char} (quote : Gap s ('"' :: u))
    (name : Characters key u v) (colon : Gap v (':' :: r)) (outer : List Bracket) :
    passInside outer ('\x7b' :: s) = passInside (.record :: outer) r := by
  have opened : Gap ('"' :: u) ('"' :: u) := .refl _
  rw [passInside_eq, skipBlanks_cons (by decide)]
  dsimp only
  rw [if_neg (by decide), if_pos rfl, quote.skipBlanks_eq_cons (by decide)]
  dsimp only
  rw [if_neg (by decide), opened.passKey_eq name colon]
  rfl

/-- That what is spelled is passed over inside any brackets. -/
def Part.Passed : Part → List Char → List Char → Prop
  | .value tree, s, r => tree.Stops r → ∀ outer, passInside outer s = passAfter outer r
  | .spaced tree, s, r => tree.Stops r → ∀ outer, passInside outer s = passAfter outer r
  | .elements true _, s, r => ∀ outer, passInside outer ('[' :: s) = passAfter outer r
  | .elements false _, s, r => ∀ outer, passAfter (.list :: outer) s = passAfter outer r
  | .members true _, s, r => ∀ outer, passInside outer ('\x7b' :: s) = passAfter outer r
  | .members false _, s, r => ∀ outer, passAfter (.record :: outer) s = passAfter outer r

theorem Spells.passed {part : Part} (h : Spells part s r) : part.Passed s r := by
  induction h with
  | null r => exact fun _ => passInside_of_passScalar (by decide) (by decide) (by decide) rfl
  | yes r => exact fun _ => passInside_of_passScalar (by decide) (by decide) (by decide) rfl
  | no r => exact fun _ => passInside_of_passScalar (by decide) (by decide) (by decide) rfl
  | @numeral text form r =>
    intro stop
    obtain ⟨numeral, found⟩ := scanNumeral_append .invalidNumber form stop
    obtain ⟨c, more, rfl, first⟩ := form.exists_cons
    have dark := (Spells.numeral form r).dark.1
    refine passInside_of_passScalar dark (ne_of_opensNumeral first (by decide))
      (ne_of_opensNumeral first (by decide)) ?_
    rw [passScalar_of_opensNumeral first]
    exact map_eq_ok_iff.2 ⟨_, found, rfl⟩
  | string chars =>
    refine fun _ => passInside_of_passScalar (by decide) (by decide) (by decide) ?_
    exact passString_eq_ok_iff.2 ⟨_, chars⟩
  | list inside ih => exact fun _ => ih
  | record inside ih => exact fun _ => ih
  | spaced gap value ih =>
    intro stop outer
    rw [← ih stop outer, ← passInside_skipBlanks, gap.skipBlanks_eq, passInside_skipBlanks]
  | @endOfList first s r gap =>
    cases first with
    | true => exact passInside_of_emptyList gap
    | false =>
      intro outer
      rw [passAfter_list_eq, gap.skipBlanks_eq_cons (by decide)]
      rfl
  | @element first tree trees s t u r joint value rest ih ihRest =>
    have inside := ih (rest.numeralStops_of_elements.stops tree)
    cases first with
    | true =>
      intro outer
      obtain rfl : s = t := joint
      rw [passInside_of_list value, inside, ihRest]
    | false =>
      intro outer
      rw [passAfter_list_eq, Gap.skipBlanks_eq_cons joint (by decide)]
      dsimp only
      rw [if_pos rfl, inside, ihRest]
  | @endOfRecord first s r gap =>
    cases first with
    | true => exact passInside_of_emptyRecord gap
    | false =>
      intro outer
      rw [passAfter_record_eq, gap.skipBlanks_eq_cons (by decide)]
      rfl
  | @member first key tree members s t u v w x r joint quote name colon value rest ih ihRest =>
    have inside := ih (rest.numeralStops_of_members.stops tree)
    cases first with
    | true =>
      intro outer
      obtain rfl : s = t := joint
      rw [passInside_of_record quote name colon, inside, ihRest]
    | false =>
      intro outer
      rw [passAfter_record_eq, Gap.skipBlanks_eq_cons joint (by decide)]
      dsimp only
      rw [if_pos rfl, quote.passKey_eq name colon]
      exact (inside _).trans (ihRest outer)

/-- The ways in which a success inside the brackets `outer` goes on. -/
inductive InsideTurn (outer : List Bracket) (r : List Char) : List Char → Prop
  | emptyList {t u : List Char} (close : Gap t (']' :: u)) (after : passAfter outer u = .ok r) :
      InsideTurn outer r ('[' :: t)
  | list {t : List Char} (inside : passInside (.list :: outer) t = .ok r) : InsideTurn outer r ('[' :: t)
  | emptyRecord {t u : List Char} (close : Gap t ('\x7d' :: u)) (after : passAfter outer u = .ok r) :
      InsideTurn outer r ('\x7b' :: t)
  | record {t u : List Char} (key : passKey t = .ok u) (inside : passInside (.record :: outer) u = .ok r) :
      InsideTurn outer r ('\x7b' :: t)
  | scalar {s t : List Char} (scalar : passScalar s = .ok t) (after : passAfter outer t = .ok r) :
      InsideTurn outer r s

private theorem passKey_skipBlanks (s : List Char) : passKey (skipBlanks s) = passKey s := by
  rw [passKey, passKey, ← (gap_skipBlanks s).skipBlanks_eq]

private theorem insideTurn (h : passInside outer s = .ok r) : InsideTurn outer r (skipBlanks s) := by
  rw [passInside_eq] at h
  split at h
  · cases h
  rename_i c t found
  rw [found]
  split_ifs at h with list record
  · subst list
    split at h
    · cases h
    rename_i d u inside
    split_ifs at h with close
    · exact .emptyList (gap_of_skipBlanks_eq (close ▸ inside)) h
    · rw [← inside, passInside_skipBlanks] at h
      exact .list h
  · subst record
    split at h
    · cases h
    rename_i d u inside
    split_ifs at h with close
    · exact .emptyRecord (gap_of_skipBlanks_eq (close ▸ inside)) h
    · obtain ⟨v, passed, behind⟩ := bind_eq_ok_iff.1 h
      rw [← inside, passKey_skipBlanks] at passed
      exact .record passed behind
  · obtain ⟨u, passed, after⟩ := bind_eq_ok_iff.1 h
    exact .scalar passed after

/-- Behind a value in a list there is a comma or the end of the list. -/
theorem listTurn (h : passAfter (.list :: outer) s = .ok r) :
    (∃ t, Gap s (',' :: t) ∧ passInside (.list :: outer) t = .ok r) ∨
      ∃ t, Gap s (']' :: t) ∧ passAfter outer t = .ok r := by
  rw [passAfter_list_eq] at h
  split at h
  · cases h
  rename_i c t found
  split_ifs at h with comma close
  · exact .inl ⟨t, gap_of_skipBlanks_eq (comma ▸ found), h⟩
  · exact .inr ⟨t, gap_of_skipBlanks_eq (close ▸ found), h⟩

/-- Behind a value in a record there is a comma with another key or the end of the record. -/
theorem recordTurn (h : passAfter (.record :: outer) s = .ok r) :
    (∃ t u, Gap s (',' :: t) ∧ passKey t = .ok u ∧ passInside (.record :: outer) u = .ok r) ∨
      ∃ t, Gap s ('\x7d' :: t) ∧ passAfter outer t = .ok r := by
  rw [passAfter_record_eq] at h
  split at h
  · cases h
  rename_i c t found
  split_ifs at h with comma close
  · obtain ⟨u, passed, inside⟩ := bind_eq_ok_iff.1 h
    exact .inl ⟨t, u, gap_of_skipBlanks_eq (comma ▸ found), passed, inside⟩
  · exact .inr ⟨t, gap_of_skipBlanks_eq (close ▸ found), h⟩

/-- A success inside brackets begins with a value, and one behind a value with the rest of the innermost
bracket, as far as texts of a bounded length go. -/
structure SpelledUpTo (bound : Nat) : Prop where
  inside : ∀ {s outer r}, s.length ≤ bound → passInside outer s = .ok r →
    ∃ tree u, Spells (.spaced tree) s u ∧ passAfter outer u = .ok r
  elements : ∀ {s outer r}, s.length ≤ bound → passAfter (.list :: outer) s = .ok r →
    ∃ trees u, Spells (.elements false trees) s u ∧ passAfter outer u = .ok r
  members : ∀ {s outer r}, s.length ≤ bound → passAfter (.record :: outer) s = .ok r →
    ∃ members u, Spells (.members false members) s u ∧ passAfter outer u = .ok r

variable {bound : Nat}

/-- A first element with the elements behind it. -/
theorem SpelledUpTo.list (ih : SpelledUpTo bound) (short : s.length ≤ bound)
    (h : passInside (.list :: outer) s = .ok r) :
    ∃ tree trees t u, Spells (.spaced tree) s t ∧ Spells (.elements false trees) t u ∧
      passAfter outer u = .ok r := by
  obtain ⟨tree, t, value, after⟩ := ih.inside short h
  have := value.length_lt
  obtain ⟨trees, u, rest, done⟩ := ih.elements (by omega) after
  exact ⟨tree, trees, t, u, value, rest, done⟩

/-- A first member with the members behind it. -/
theorem SpelledUpTo.record (ih : SpelledUpTo bound) (short : s.length ≤ bound) (passed : passKey s = .ok t)
    (h : passInside (.record :: outer) t = .ok r) :
    ∃ members u, (∀ first s', Joint first s' s → Spells (.members first members) s' u) ∧
      passAfter outer u = .ok r := by
  have := length_lt_of_passKey passed
  obtain ⟨key, u, v, quote, name, colon⟩ := passKey_eq_ok_iff.1 passed
  obtain ⟨tree, w, value, after⟩ := ih.inside (by omega) h
  have := value.length_lt
  obtain ⟨members, x, rest, done⟩ := ih.members (by omega) after
  exact ⟨(key, tree) :: members, x,
    fun first s' joint => .member joint quote name colon value rest, done⟩

private theorem spelledUpTo (bound : Nat) : SpelledUpTo bound := by
  induction bound with
  | zero =>
    refine ⟨fun short h => ?_, fun short h => ?_, fun short h => ?_⟩ <;>
      obtain rfl := List.length_eq_zero_iff.1 (Nat.le_zero.1 short)
    · rw [passInside_eq] at h
      cases h
    · rw [passAfter_list_eq] at h
      cases h
    · rw [passAfter_record_eq] at h
      cases h
  | succ bound ih =>
    refine ⟨fun {s outer r} short h => ?_, fun {s outer r} short h => ?_, fun {s outer r} short h => ?_⟩
    · have blanks := length_skipBlanks_le s
      have gap := gap_skipBlanks s
      have turn := insideTurn h
      generalize skipBlanks s = bare at blanks gap turn
      cases turn with
      | emptyList close after => exact ⟨.list [], _, .spaced gap (.list (.endOfList close)), after⟩
      | @list t inside =>
        rw [List.length_cons] at blanks
        obtain ⟨tree, trees, t, u, value, rest, done⟩ := ih.list (by omega) inside
        exact ⟨.list (tree :: trees), u, .spaced gap (.list (.element rfl value rest)), done⟩
      | emptyRecord close after =>
        exact ⟨.record [], _, .spaced gap (.record (.endOfRecord close)), after⟩
      | @record t u key inside =>
        rw [List.length_cons] at blanks
        obtain ⟨members, v, spelled, done⟩ := ih.record (by omega) key inside
        exact ⟨.record members, v, .spaced gap (.record (spelled true t rfl)), done⟩
      | scalar scalar after =>
        obtain ⟨tree, value⟩ := spells_of_passScalar scalar
        exact ⟨tree, _, .spaced gap value, after⟩
    · rcases listTurn h with ⟨t, gap, inside⟩ | ⟨t, gap, after⟩
      · have := gap.length_lt
        obtain ⟨tree, trees, u, v, value, rest, done⟩ := ih.list (by omega) inside
        exact ⟨tree :: trees, v, .element gap value rest, done⟩
      · exact ⟨[], t, .endOfList gap, after⟩
    · rcases recordTurn h with ⟨t, u, gap, passed, inside⟩ | ⟨t, gap, after⟩
      · have := gap.length_lt
        obtain ⟨members, v, spelled, done⟩ := ih.record (by omega) passed inside
        exact ⟨members, v, spelled false s gap, done⟩
      · exact ⟨[], t, .endOfRecord gap, after⟩

theorem spells_of_passValue (h : passValue s = .ok r) : ∃ tree, Spells (.spaced tree) s r := by
  obtain ⟨tree, u, value, done⟩ := (spelledUpTo s.length).inside (Nat.le_refl _) h
  rw [passAfter_nil] at done
  cases done
  exact ⟨tree, value⟩

theorem Spells.passValue (value : Spells (.spaced tree) s r) (stop : tree.Stops r) :
    passValue s = .ok r :=
  (value.passed stop []).trans (passAfter_nil r)

end CollectionGlue
