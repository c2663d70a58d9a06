import CollectionGlue.Proofs.SpelledNumerals
import CollectionGlue.Proofs.SpelledStrings

/-! # A text spells at most one tree

The first character of a value tells its kind, so the places where a derivation has a choice are told
apart by the character that stands there. Only a numeral may be cut short; it must be followed by
something with which it cannot go on.
-/
namespace CollectionGlue

variable {tree : JsonTree} {s t r text : List Char}

def JsonTree.mark? : JsonTree → Option Char
  | .null => some 'n'
  | .boolean true => some 't'
  | .boolean false => some 'f'
  | .numeral _ => none
  | .string _ => some '"'
  | .list _ => some '['
  | .record _ => some '\x7b'

def opensNumeral (c : Char) : Bool := c == '-' || c.isDigit

theorem IsNumeral.exists_cons (h : IsNumeral text) : ∃ c more, text = c :: more ∧ opensNumeral c = true := by
  obtain ⟨minus, whole, fraction, exponent, isMinus, isWhole, -, -, rfl⟩ := h
  obtain ⟨c, more, rfl, digit⟩ := isWhole.exists_cons
  rcases isMinus with rfl | rfl
  · exact ⟨c, _, rfl, by rw [opensNumeral, digit, Bool.or_true]⟩
  · exact ⟨'-', _, rfl, rfl⟩

/-- A value begins with the mark of its kind, a numeral with a sign or a digit. -/
theorem Spells.begins (h : Spells (.value tree) s r) :
    ∃ c t, s = c :: t ∧ (tree.mark? = some c ∧ opensNumeral c = false ∨
      tree.mark? = none ∧ opensNumeral c = true) := by
  cases h with
  | numeral form r =>
    obtain ⟨c, more, rfl, first⟩ := form.exists_cons
    exact ⟨c, more ++ r, rfl, .inr ⟨rfl, first⟩⟩
  | _ => exact ⟨_, _, rfl, .inl ⟨rfl, rfl⟩⟩

private theorem Spells.mark?_eq {c : Char} (h : Spells (.value tree) (c :: s) r)
    (other : opensNumeral c = false) : tree.mark? = some c := by
  obtain ⟨c', t, same, first⟩ := h.begins
  cases same
  rcases first with ⟨mark, -⟩ | ⟨-, numeral⟩
  · exact mark
  · rw [other] at numeral
    cases numeral

private theorem Spells.mark?_eq_none {c : Char} (h : Spells (.value tree) (c :: s) r)
    (first : opensNumeral c = true) : tree.mark? = none := by
  obtain ⟨c', t, same, kind⟩ := h.begins
  cases same
  rcases kind with ⟨-, other⟩ | ⟨numeral, -⟩
  · rw [first] at other
    cases other
  · exact numeral

/-- No value begins with a blank or with the end of a list. -/
theorem Spells.dark {c : Char} (h : Spells (.value tree) (c :: s) r) : isBlank c = false ∧ c ≠ ']' := by
  by_cases first : opensNumeral c = true
  · refine ⟨?_, ?_⟩
    · rw [Bool.eq_false_iff, Ne, isBlank_iff]
      rintro (rfl | rfl | rfl | rfl) <;> cases first
    · rintro rfl
      cases first
  · have mark := h.mark?_eq (by simpa using first)
    revert mark
    cases tree with
    | boolean value => cases value <;> rintro ⟨⟩ <;> decide
    | numeral => rintro ⟨⟩
    | _ => rintro ⟨⟩; decide

theorem spells_spaced_iff : Spells (.spaced tree) s r ↔ Spells (.value tree) (skipBlanks s) r := by
  constructor
  · intro h
    cases h with
    | spaced gap value =>
      obtain ⟨c, t, rfl, -⟩ := value.begins
      rwa [gap.skipBlanks_eq_cons value.dark.1]
  · exact .spaced (gap_skipBlanks s)

theorem Spells.opens (h : Spells (.spaced tree) s r) :
    ∃ c t, skipBlanks s = c :: t ∧ Spells (.value tree) (c :: t) r := by
  have bare := spells_spaced_iff.1 h
  obtain ⟨c, t, found, -⟩ := bare.begins
  exact ⟨c, t, found, found ▸ bare⟩

theorem Spells.of_null (h : Spells (.value tree) ('n' :: s) r) :
    tree = .null ∧ s = 'u' :: 'l' :: 'l' :: r := by
  have mark := h.mark?_eq (by decide)
  cases tree with
  | null =>
    cases h
    exact ⟨rfl, rfl⟩
  | boolean value => cases value <;> cases mark
  | _ => cases mark

private theorem Spells.of_true (h : Spells (.value tree) ('t' :: s) r) :
    tree = .boolean true ∧ s = 'r' :: 'u' :: 'e' :: r := by
  have mark := h.mark?_eq (by decide)
  cases tree with
  | boolean value =>
    cases value with
    | true =>
      cases h
      exact ⟨rfl, rfl⟩
    | false => cases mark
  | _ => cases mark

private theorem Spells.of_false (h : Spells (.value tree) ('f' :: s) r) :
    tree = .boolean false ∧ s = 'a' :: 'l' :: 's' :: 'e' :: r := by
  have mark := h.mark?_eq (by decide)
  cases tree with
  | boolean value =>
    cases value with
    | true => cases mark
    | false =>
      cases h
      exact ⟨rfl, rfl⟩
  | _ => cases mark

theorem Spells.of_quote (h : Spells (.value tree) ('"' :: s) r) :
    ∃ units, tree = .string units ∧ Characters units s r := by
  have mark := h.mark?_eq (by decide)
  cases tree with
  | string units =>
    cases h with
    | string text => exact ⟨units, rfl, text⟩
  | boolean value => cases value <;> cases mark
  | _ => cases mark

private theorem Spells.of_bracket (h : Spells (.value tree) ('[' :: s) r) :
    ∃ trees, tree = .list trees ∧ Spells (.elements true trees) s r := by
  have mark := h.mark?_eq (by decide)
  cases tree with
  | list trees =>
    cases h with
    | list inside => exact ⟨trees, rfl, inside⟩
  | boolean value => cases value <;> cases mark
  | _ => cases mark

theorem Spells.of_brace (h : Spells (.value tree) ('\x7b' :: s) r) :
    ∃ members, tree = .record members ∧ Spells (.members true members) s r := by
  have mark := h.mark?_eq (by decide)
  cases tree with
  | record members =>
    cases h with
    | record inside => exact ⟨members, rfl, inside⟩
  | boolean value => cases value <;> cases mark
  | _ => cases mark

private theorem Spells.of_opensNumeral {c : Char} (h : Spells (.value tree) (c :: s) r)
    (first : opensNumeral c = true) : ∃ text, tree = .numeral text ∧ IsNumeral text ∧ c :: s = text ++ r := by
  have mark := h.mark?_eq_none first
  cases tree with
  | numeral text =>
    generalize whole : c :: s = s' at h
    cases h with
    | numeral form => exact ⟨text, rfl, form, rfl⟩
  | boolean value => cases value <;> cases mark
  | _ => cases mark

theorem Gap.framed (h : Gap s t) :
    ∃ blanks, s = blanks ++ t ∧ ∀ t', Gap (blanks ++ t') t' := by
  induction h with
  | refl s => exact ⟨[], rfl, .refl⟩
  | @cons c s t blank _ ih =>
    obtain ⟨blanks, rfl, again⟩ := ih
    exact ⟨c :: blanks, rfl, fun t' => .cons blank (again t')⟩

private theorem Gap.framed_cons {c : Char} (h : Gap s (c :: t)) :
    ∃ text, text ≠ [] ∧ s = text ++ t ∧ ∀ t', Gap (text ++ t') (c :: t') := by
  obtain ⟨blanks, rfl, again⟩ := h.framed
  refine ⟨blanks ++ [c], by simp, by rw [List.append_assoc]; rfl, fun t' => ?_⟩
  rw [List.append_assoc]
  exact again (c :: t')

theorem Gap.length_lt {c : Char} (h : Gap s (c :: t)) : t.length < s.length := by
  obtain ⟨text, nonempty, rfl, -⟩ := h.framed_cons
  have := List.length_pos_iff.2 nonempty
  rw [List.length_append]
  omega

theorem Joint.framed {first : Bool} (h : Joint first s t) :
    ∃ text, s = text ++ t ∧ ∀ t', Joint first (text ++ t') t' := by
  cases first with
  | true => exact ⟨[], h, fun _ => rfl⟩
  | false =>
    obtain ⟨text, -, whole, again⟩ := Gap.framed_cons h
    exact ⟨text, whole, again⟩

theorem FourHexDigits.framed {n : Nat} (h : FourHexDigits n s t) :
    ∃ text, s = text ++ t ∧ ∀ t', FourHexDigits n (text ++ t') t' := by
  obtain ⟨a, b, c, d, i, j, k, l, rfl, digits⟩ := h
  exact ⟨[a, b, c, d], rfl, fun t' => ⟨a, b, c, d, i, j, k, l, rfl, digits⟩⟩

theorem Characters.framed {units : List UInt16} (h : Characters units s r) :
    ∃ text, s = text ++ r ∧ ∀ r', Characters units (text ++ r') r' := by
  induction h with
  | close r => exact ⟨['"'], rfl, .close⟩
  | @plain c units s r free _ ih =>
    obtain ⟨text, rfl, again⟩ := ih
    exact ⟨c :: text, rfl, fun r' => .plain free (again r')⟩
  | @letter letter meant units s r known _ ih =>
    obtain ⟨text, rfl, again⟩ := ih
    exact ⟨'\\' :: letter :: text, rfl, fun r' => .letter known (again r')⟩
  | unit digits _ ih =>
    obtain ⟨text, rfl, again⟩ := ih
    obtain ⟨code, rfl, here⟩ := digits.framed
    refine ⟨'\\' :: 'u' :: (code ++ text), by simp, fun r' => ?_⟩
    rw [List.cons_append, List.cons_append, List.append_assoc]
    exact .unit (here _) (again r')

/-- What a spelling takes is a text of its own, which is spelled before any other rest as well. -/
theorem Spells.framed {part : Part} (h : Spells part s r) :
    ∃ text, text ≠ [] ∧ s = text ++ r ∧ ∀ r', Spells part (text ++ r') r' := by
  induction h with
  | null r => exact ⟨['n', 'u', 'l', 'l'], List.cons_ne_nil _ _, rfl, .null⟩
  | yes r => exact ⟨['t', 'r', 'u', 'e'], List.cons_ne_nil _ _, rfl, .yes⟩
  | no r => exact ⟨['f', 'a', 'l', 's', 'e'], List.cons_ne_nil _ _, rfl, .no⟩
  | @numeral text form r =>
    obtain ⟨c, more, rfl, -⟩ := form.exists_cons
    exact ⟨c :: more, List.cons_ne_nil _ _, rfl, .numeral form⟩
  | string chars =>
    obtain ⟨text, rfl, again⟩ := chars.framed
    exact ⟨'"' :: text, List.cons_ne_nil _ _, rfl, fun r' => .string (again r')⟩
  | list inside ih =>
    obtain ⟨text, -, rfl, again⟩ := ih
    exact ⟨'[' :: text, List.cons_ne_nil _ _, rfl, fun r' => .list (again r')⟩
  | record inside ih =>
    obtain ⟨text, -, rfl, again⟩ := ih
    exact ⟨'\x7b' :: text, List.cons_ne_nil _ _, rfl, fun r' => .record (again r')⟩
  | spaced gap value ih =>
    obtain ⟨text, nonempty, rfl, again⟩ := ih
    obtain ⟨blanks, rfl, before⟩ := gap.framed
    refine ⟨blanks ++ text, by simp [nonempty], by simp, fun r' => ?_⟩
    rw [List.append_assoc]
    exact .spaced (before _) (again r')
  | endOfList gap =>
    obtain ⟨text, nonempty, rfl, again⟩ := gap.framed_cons
    exact ⟨text, nonempty, rfl, fun r' => .endOfList (again r')⟩
  | element joint value rest ih ihRest =>
    obtain ⟨comma, rfl, joined⟩ := joint.framed
    obtain ⟨text, nonempty, rfl, again⟩ := ih
    obtain ⟨more, -, rfl, after⟩ := ihRest
    refine ⟨comma ++ (text ++ more), by simp [nonempty], by simp, fun r' => ?_⟩
    rw [List.append_assoc, List.append_assoc]
    exact .element (joined _) (again _) (after r')
  | endOfRecord gap =>
    obtain ⟨text, nonempty, rfl, again⟩ := gap.framed_cons
    exact ⟨text, nonempty, rfl, fun r' => .endOfRecord (again r')⟩
  | member joint quote name colon value rest ih ihRest =>
    obtain ⟨comma, rfl, joined⟩ := joint.framed
    obtain ⟨before, -, rfl, opened⟩ := quote.framed_cons
    obtain ⟨key, rfl, named⟩ := name.framed
    obtain ⟨between, -, rfl, separated⟩ := colon.framed_cons
    obtain ⟨text, nonempty, rfl, again⟩ := ih
    obtain ⟨more, -, rfl, after⟩ := ihRest
    refine ⟨comma ++ (before ++ (key ++ (between ++ (text ++ more)))), by simp [nonempty], by simp,
      fun r' => ?_⟩
    simp only [List.append_assoc]
    exact .member (joined _) (opened _) (named _) (separated _) (again _) (after r')

theorem Spells.length_lt {part : Part} (h : Spells part s r) : r.length < s.length := by
  obtain ⟨text, nonempty, rfl, -⟩ := h.framed
  have := List.length_pos_iff.2 nonempty
  rw [List.length_append]
  omega

/-- What follows a value does not go on with it. -/
def JsonTree.Stops (r : List Char) : JsonTree → Prop
  | .numeral _ => NumeralStops r
  | _ => True

theorem NumeralStops.stops (h : NumeralStops r) (tree : JsonTree) : tree.Stops r := by
  cases tree with
  | numeral => exact h
  | _ => trivial

theorem Gap.numeralStops (h : Gap s t) (stop : NumeralStops t) : NumeralStops s := by
  cases h with
  | refl => exact stop
  | cons blank =>
    intro c first
    cases first
    rcases blank with rfl | rfl | rfl | rfl <;> decide

theorem numeralStops_cons {c : Char} (h : c = ',' ∨ c = ']' ∨ c = '\x7d') (r : List Char) :
    NumeralStops (c :: r) := by
  intro c' first
  cases first
  rcases h with rfl | rfl | rfl <;> decide

theorem numeralStops_nil : NumeralStops [] := nofun

theorem Spells.numeralStops_of_elements {trees : List JsonTree} (h : Spells (.elements false trees) s r) :
    NumeralStops s := by
  cases h with
  | endOfList gap => exact gap.numeralStops (numeralStops_cons (.inr (.inl rfl)) r)
  | element joint => exact Gap.numeralStops joint (numeralStops_cons (.inl rfl) _)

theorem Spells.numeralStops_of_members {members : List (List UInt16 × JsonTree)}
    (h : Spells (.members false members) s r) : NumeralStops s := by
  cases h with
  | endOfRecord gap => exact gap.numeralStops (numeralStops_cons (.inr (.inr rfl)) r)
  | member joint => exact Gap.numeralStops joint (numeralStops_cons (.inl rfl) _)

theorem IsNumeral.unique {text' r' : List Char} (form : IsNumeral text) (stop : NumeralStops r)
    (form' : IsNumeral text') (stop' : NumeralStops r') (same : text ++ r = text' ++ r') :
    text = text' ∧ r = r' := by
  obtain ⟨numeral, found⟩ := scanNumeral_append .invalidNumber form stop
  obtain ⟨numeral', found'⟩ := scanNumeral_append .invalidNumber form' stop'
  rw [same, found'] at found
  cases found
  exact ⟨List.append_cancel_right same, rfl⟩

/-- That nothing else is spelled at the same place of a text. -/
def Part.Alone : Part → List Char → List Char → Prop
  | .value tree, s, r =>
    tree.Stops r → ∀ tree' r', tree'.Stops r' → Spells (.value tree') s r' → tree = tree' ∧ r = r'
  | .spaced tree, s, r =>
    tree.Stops r → ∀ tree' r', tree'.Stops r' → Spells (.spaced tree') s r' → tree = tree' ∧ r = r'
  | .elements first trees, s, r =>
    ∀ trees' r', Spells (.elements first trees') s r' → trees = trees' ∧ r = r'
  | .members first pairs, s, r =>
    ∀ pairs' r', Spells (.members first pairs') s r' → pairs = pairs' ∧ r = r'

theorem Joint.unique {first : Bool} {t' : List Char} (h : Joint first s t) (h' : Joint first s t') :
    t = t' := by
  cases first with
  | true => exact Eq.trans (Eq.symm h) h'
  | false =>
    have comma := Gap.skipBlanks_eq_cons h (by decide)
    rw [Gap.skipBlanks_eq_cons h' (by decide)] at comma
    exact (List.cons.inj comma).2.symm

private theorem Joint.not_endOfList {first : Bool} {u : List Char} (h : Joint first s t)
    (value : Spells (.spaced tree) t u) : ¬Gap s (']' :: r) := by
  intro gap
  have bracket := gap.skipBlanks_eq_cons (by decide)
  cases first with
  | true =>
    obtain rfl : s = t := h
    rw [spells_spaced_iff, bracket] at value
    exact value.dark.2 rfl
  | false =>
    rw [Gap.skipBlanks_eq_cons h (by decide)] at bracket
    cases bracket

private theorem Joint.not_endOfRecord {first : Bool} {u : List Char} (h : Joint first s t)
    (quote : Gap t ('"' :: u)) : ¬Gap s ('\x7d' :: r) := by
  intro gap
  have bracket := gap.skipBlanks_eq_cons (by decide)
  cases first with
  | true =>
    obtain rfl : s = t := h
    rw [quote.skipBlanks_eq_cons (by decide)] at bracket
    cases bracket
  | false =>
    rw [Gap.skipBlanks_eq_cons h (by decide)] at bracket
    cases bracket

theorem Gap.unique {c : Char} {t' : List Char} (h : Gap s (c :: t)) (h' : Gap s (c :: t'))
    (dark : isBlank c = false) : t = t' := by
  have same := h.skipBlanks_eq_cons dark
  rw [h'.skipBlanks_eq_cons dark] at same
  exact (List.cons.inj same).2.symm

theorem Spells.alone {part : Part} (h : Spells part s r) : part.Alone s r := by
  induction h with
  | null r =>
    intro _ tree' r' _ h'
    obtain ⟨rfl, rest⟩ := h'.of_null
    cases rest
    exact ⟨rfl, rfl⟩
  | yes r =>
    intro _ tree' r' _ h'
    obtain ⟨rfl, rest⟩ := h'.of_true
    cases rest
    exact ⟨rfl, rfl⟩
  | no r =>
    intro _ tree' r' _ h'
    obtain ⟨rfl, rest⟩ := h'.of_false
    cases rest
    exact ⟨rfl, rfl⟩
  | @numeral text form r =>
    intro stop tree' r' stop' h'
    obtain ⟨c, more, opened, first⟩ := form.exists_cons
    rw [opened] at h'
    obtain ⟨text', rfl, form', whole⟩ := h'.of_opensNumeral first
    have same : text ++ r = text' ++ r' := by
      rw [opened]
      exact whole
    obtain ⟨rfl, rfl⟩ := form.unique stop form' stop' same
    exact ⟨rfl, rfl⟩
  | string chars =>
    intro _ tree' r' _ h'
    obtain ⟨units', rfl, chars'⟩ := h'.of_quote
    obtain ⟨rfl, rfl⟩ := chars.unique chars'
    exact ⟨rfl, rfl⟩
  | list inside ih =>
    intro _ tree' r' _ h'
    obtain ⟨trees', rfl, inside'⟩ := h'.of_bracket
    obtain ⟨rfl, rfl⟩ := ih trees' r' inside'
    exact ⟨rfl, rfl⟩
  | record inside ih =>
    intro _ tree' r' _ h'
    obtain ⟨members', rfl, inside'⟩ := h'.of_brace
    obtain ⟨rfl, rfl⟩ := ih members' r' inside'
    exact ⟨rfl, rfl⟩
  | spaced gap value ih =>
    intro stop tree' r' stop' h'
    obtain ⟨c, t, rfl, -⟩ := value.begins
    rw [spells_spaced_iff, gap.skipBlanks_eq_cons value.dark.1] at h'
    exact ih stop tree' r' stop' h'
  | endOfList gap =>
    intro trees' r' h'
    cases h' with
    | endOfList gap' => exact ⟨rfl, gap.unique gap' (by decide)⟩
    | element joint value => exact absurd gap (joint.not_endOfList value)
  | element joint value rest ih ihRest =>
    intro trees' r' h'
    cases h' with
    | endOfList gap' => exact absurd gap' (joint.not_endOfList value)
    | element joint' value' rest' =>
      obtain rfl := joint.unique joint'
      obtain ⟨rfl, rfl⟩ := ih (rest.numeralStops_of_elements.stops _) _ _
        (rest'.numeralStops_of_elements.stops _) value'
      obtain ⟨rfl, rfl⟩ := ihRest _ _ rest'
      exact ⟨rfl, rfl⟩
  | endOfRecord gap =>
    intro members' r' h'
    cases h' with
    | endOfRecord gap' => exact ⟨rfl, gap.unique gap' (by decide)⟩
    | member joint quote => exact absurd gap (joint.not_endOfRecord quote)
  | member joint quote name colon value rest ih ihRest =>
    intro members' r' h'
    cases h' with
    | endOfRecord gap' => exact absurd gap' (joint.not_endOfRecord quote)
    | member joint' quote' name' colon' value' rest' =>
      obtain rfl := joint.unique joint'
      obtain rfl := quote.unique quote' (by decide)
      obtain ⟨rfl, rfl⟩ := name.unique name'
      obtain rfl := colon.unique colon' (by decide)
      obtain ⟨rfl, rfl⟩ := ih (rest.numeralStops_of_members.stops _) _ _
        (rest'.numeralStops_of_members.stops _) value'
      obtain ⟨rfl, rfl⟩ := ihRest _ _ rest'
      exact ⟨rfl, rfl⟩

/-- A document spells one tree. -/
theorem Document.unique {tree' : JsonTree} (h : Document tree s) (h' : Document tree' s) :
    tree = tree' := by
  obtain ⟨r, spelled, gap⟩ := h
  obtain ⟨r', spelled', gap'⟩ := h'
  exact (spelled.alone ((gap.numeralStops numeralStops_nil).stops tree) tree' r'
    ((gap'.numeralStops numeralStops_nil).stops tree') spelled').1

end CollectionGlue
