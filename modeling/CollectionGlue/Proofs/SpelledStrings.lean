import CollectionGlue.Proofs.EscapedStrings
import CollectionGlue.Proofs.CodeUnits
import Mathlib.Tactic.IntervalCases

/-! # Blanks and strings of the grammar, as the scanners take them

A string that is passed over may spell any code units; a string that is kept spells the code units of the
text that it is read as.
-/
namespace CollectionGlue

theorem isBlank_iff (c : Char) : isBlank c = true ↔ c = ' ' ∨ c = '\t' ∨ c = '\n' ∨ c = '\r' := by
  simp [isBlank, or_assoc]

theorem Gap.skipBlanks_eq {s t : List Char} (h : Gap s t) : skipBlanks s = skipBlanks t := by
  induction h with
  | refl => rfl
  | cons blank _ ih => rw [← ih, skipBlanks, List.dropWhile_cons, if_pos ((isBlank_iff _).2 blank)]; rfl

theorem Gap.skipBlanks_eq_cons {s r : List Char} {c : Char} (h : Gap s (c :: r))
    (dark : isBlank c = false) : skipBlanks s = c :: r := by
  rw [h.skipBlanks_eq, skipBlanks_cons dark]

theorem gap_skipBlanks (s : List Char) : Gap s (skipBlanks s) := by
  induction s with
  | nil => exact .refl []
  | cons c s ih =>
    by_cases blank : isBlank c = true
    · rw [skipBlanks, List.dropWhile_cons, if_pos blank]
      exact .cons ((isBlank_iff c).1 blank) ih
    · rw [skipBlanks_cons (by simpa using blank)]
      exact .refl _

theorem gap_of_skipBlanks_eq {s t : List Char} (h : skipBlanks s = t) : Gap s t := h ▸ gap_skipBlanks s

private theorem hexValue?_digitChar {n : Nat} (small : n < 16) :
    hexValue? (Nat.digitChar n) = some n ∧ hexValue? (Nat.digitChar n).toUpper = some n := by
  revert n
  decide

theorem hexValue?_eq_some_iff (c : Char) (n : Nat) : hexValue? c = some n ↔ IsHexDigit c n := by
  constructor
  · intro found
    have bounds (a b : Char) : a ≤ c ∧ c ≤ b ↔ a.toNat ≤ c.toNat ∧ c.toNat ≤ b.toNat := Iff.rfl
    have digit : c.isDigit = true ↔ '0' ≤ c ∧ c ≤ '9' := by
      simp only [Char.isDigit, Bool.and_eq_true, decide_eq_true_eq]
      rfl
    rw [← Char.ofNat_toNat c]
    unfold hexValue? at found
    simp only [digit, bounds, Char.reduceToNat] at found
    generalize c.toNat = code at found
    split_ifs at found with range range range <;> cases found <;> obtain ⟨low, high⟩ := range <;>
      interval_cases code <;> decide
  · rintro ⟨small, rfl | rfl⟩
    · exact (hexValue?_digitChar small).1
    · exact (hexValue?_digitChar small).2

theorem escapeLetter?_eq_some_iff (c meant : Char) :
    escapeLetter? c = some meant ↔ (c, meant) ∈ letterEscapes := by
  constructor
  · intro known
    unfold escapeLetter? at known
    split_ifs at known with mark <;> cases known <;> subst_vars
    · rcases mark with rfl | rfl | rfl <;> simp [letterEscapes]
    all_goals simp [letterEscapes]
  · intro listed
    simp only [letterEscapes, List.mem_cons, Prod.mk.injEq, List.not_mem_nil, or_false] at listed
    rcases listed with ⟨rfl, rfl⟩ | ⟨rfl, rfl⟩ | ⟨rfl, rfl⟩ | ⟨rfl, rfl⟩ | ⟨rfl, rfl⟩ | ⟨rfl, rfl⟩ |
      ⟨rfl, rfl⟩ | ⟨rfl, rfl⟩ <;> decide

theorem scanCodeUnit_eq_ok_iff {s r : List Char} {n : Nat} :
    scanCodeUnit s = .ok (n, r) ↔ FourHexDigits n s r := by
  constructor
  · intro h
    unfold scanCodeUnit fourHexDigits? at h
    split at h
    · rename_i found
      split at found
      · rename_i a b c d t
        split at found
        · rename_i i j k l ha hb hc hd
          cases found
          cases h
          exact ⟨a, b, c, d, i, j, k, l, rfl, (hexValue?_eq_some_iff a i).1 ha,
            (hexValue?_eq_some_iff b j).1 hb, (hexValue?_eq_some_iff c k).1 hc,
            (hexValue?_eq_some_iff d l).1 hd, rfl⟩
        · cases found
      · cases found
    · split at h <;> cases h
  · rintro ⟨a, b, c, d, i, j, k, l, rfl, ha, hb, hc, hd, rfl⟩
    simp only [scanCodeUnit, fourHexDigits?, (hexValue?_eq_some_iff _ _).2 ha,
      (hexValue?_eq_some_iff _ _).2 hb, (hexValue?_eq_some_iff _ _).2 hc,
      (hexValue?_eq_some_iff _ _).2 hd]

theorem FourHexDigits.small {n : Nat} {s r : List Char} (h : FourHexDigits n s r) : n < 0x10000 := by
  obtain ⟨a, b, c, d, i, j, k, l, -, ⟨hi, -⟩, ⟨hj, -⟩, ⟨hk, -⟩, ⟨hl, -⟩, rfl⟩ := h
  omega

theorem scanPairLink_eq_ok_iff {link : Char} {s r : List Char} :
    scanPairLink link s = .ok r ↔ s = link :: r := by
  cases s with
  | nil => simp [scanPairLink]
  | cons c s =>
    rw [scanPairLink]
    split <;> simp_all

variable {units : List UInt16} {n : Nat} {s t r : List Char}

theorem characters_plain (text : List Char) (plain : ∀ c ∈ text, c ≠ '"' ∧ c ≠ '\\' ∧ 0x20 ≤ c.toNat)
    (r : List Char) : Characters (text.flatMap utf16Units) (text ++ '"' :: r) r := by
  induction text with
  | nil => exact .close r
  | cons c text ih =>
    rw [List.flatMap_cons]
    exact .plain (plain c List.mem_cons_self) (ih fun d later => plain d (List.mem_cons_of_mem c later))

private theorem passString_of_characters (h : Characters units s r) : passString s = .ok r := by
  induction h with
  | close r => rw [passString, if_pos rfl]
  | @plain c units s r free rest ih =>
    rw [passString, if_neg free.1, if_neg free.2.1, if_neg (by omega), ih]
  | @letter letter meant units s r known rest ih =>
    have meaning := (escapeLetter?_eq_some_iff letter meant).2 known
    have step : passEscape (letter :: s) = .ok s := by
      rw [passEscape, if_neg, meaning]
      · rfl
      · rintro rfl; cases meaning
    rw [passString, if_neg (by decide), if_pos rfl]
    split <;> simp_all
  | @unit n units s t r digits rest ih =>
    have step : passEscape ('u' :: s) = .ok t := by
      rw [passEscape, if_pos rfl, scanCodeUnit_eq_ok_iff.2 digits]
      rfl
    rw [passString, if_neg (by decide), if_pos rfl]
    split <;> simp_all

private theorem passEscape_eq_ok {t : List Char} (h : passEscape s = .ok t) (rest : Characters units t r) :
    ∃ units', Characters units' ('\\' :: s) r := by
  cases s with
  | nil => cases h
  | cons c s =>
    rw [passEscape] at h
    split at h
    · rename_i mark
      subst mark
      obtain ⟨⟨n, t'⟩, found, rfl⟩ := map_eq_ok_iff.1 h
      exact ⟨_, .unit (scanCodeUnit_eq_ok_iff.1 found) rest⟩
    · split at h
      · rename_i known
        obtain ⟨meant, known⟩ := Option.isSome_iff_exists.1 known
        cases h
        exact ⟨_, .letter ((escapeLetter?_eq_some_iff c meant).1 known) rest⟩
      · cases h

/-- The strings that are passed over are those of the grammar. -/
theorem passString_eq_ok_iff : passString s = .ok r ↔ ∃ units, Characters units s r := by
  constructor
  · intro h
    fun_induction passString s with
    | case1 => cases h
    | case2 => cases h; exact ⟨[], .close _⟩
    | case3 s t escape _ ih =>
      obtain ⟨units, rest⟩ := ih h
      exact passEscape_eq_ok escape rest
    | case4 => cases h
    | case5 => cases h
    | case6 c s quote slash control ih =>
      obtain ⟨units, rest⟩ := ih h
      exact ⟨_, .plain ⟨quote, slash, by omega⟩ rest⟩
  · rintro ⟨units, h⟩
    exact passString_of_characters h

theorem Characters.unique {units' : List UInt16} {r' : List Char} (h : Characters units s r)
    (h' : Characters units' s r') : units = units' ∧ r = r' := by
  induction h generalizing units' r' with
  | close =>
    cases h' with
    | close => exact ⟨rfl, rfl⟩
    | plain free => exact absurd rfl free.1
  | plain free _ ih =>
    cases h' with
    | close => exact absurd rfl free.1
    | plain _ rest' =>
      obtain ⟨rfl, rfl⟩ := ih rest'
      exact ⟨rfl, rfl⟩
    | letter => exact absurd rfl free.2.1
    | unit => exact absurd rfl free.2.1
  | letter known _ ih =>
    have meaning := (escapeLetter?_eq_some_iff _ _).2 known
    cases h' with
    | plain free => exact absurd rfl free.2.1
    | letter known' rest' =>
      obtain ⟨rfl, rfl⟩ := ih rest'
      cases meaning.symm.trans ((escapeLetter?_eq_some_iff _ _).2 known')
      exact ⟨rfl, rfl⟩
    | unit => cases meaning
  | unit digits _ ih =>
    have found := scanCodeUnit_eq_ok_iff.2 digits
    cases h' with
    | plain free => exact absurd rfl free.2.1
    | letter known' => cases (escapeLetter?_eq_some_iff _ _).2 known'
    | unit digits' rest' =>
      cases found.symm.trans (scanCodeUnit_eq_ok_iff.2 digits')
      obtain ⟨rfl, rfl⟩ := ih rest'
      exact ⟨rfl, rfl⟩

private theorem characters_of_scanUnicodeEscape {c : Char} (h : scanUnicodeEscape s = .ok (c, t))
    (rest : Characters units t r) : Characters (utf16Units c ++ units) ('\\' :: 'u' :: s) r := by
  obtain ⟨⟨n, s₁⟩, first, h⟩ := bind_eq_ok_iff.1 h
  have digits := scanCodeUnit_eq_ok_iff.1 first
  have unit := toNat_unit digits.small
  dsimp only at h
  split at h
  · cases h
  rename_i low
  rw [Bool.not_eq_true] at low
  split at h
  · rename_i high
    obtain ⟨s₂, link, h₂⟩ := bind_eq_ok_iff.1 h
    obtain ⟨s₃, mark, h₃⟩ := bind_eq_ok_iff.1 h₂
    obtain ⟨⟨m, s₄⟩, second, h₄⟩ := bind_eq_ok_iff.1 h₃
    have digits' := scanCodeUnit_eq_ok_iff.1 second
    have unit' := toNat_unit digits'.small
    rw [scanPairLink_eq_ok_iff.1 link, scanPairLink_eq_ok_iff.1 mark] at digits
    split at h₄
    · rename_i low'
      obtain ⟨is, rfl⟩ := Prod.mk.inj (Except.ok.inj h₄)
      have pair := utf16Units_pair (n := UInt16.ofNat n) (m := UInt16.ofNat m) (by rw [unit]; exact high)
        (by rw [unit']; exact low')
      rw [unit, unit'] at pair
      rw [← is, pair]
      exact .unit digits (.unit digits' rest)
    · cases h₄
  · rename_i high
    rw [Bool.not_eq_true] at high
    cases h
    have scalar := utf16Units_scalar (n := UInt16.ofNat n) (by rwa [unit]) (by rwa [unit])
    rw [unit] at scalar
    rw [scalar]
    exact .unit digits rest

/-- An escape that is read adds the code units of its character. -/
theorem characters_of_scanEscape {c : Char} (h : scanEscape s = .ok (c, t))
    (rest : Characters units t r) : Characters (utf16Units c ++ units) ('\\' :: s) r := by
  cases s with
  | nil => cases h
  | cons letter s =>
    rw [scanEscape] at h
    split at h
    · rename_i mark
      subst mark
      exact characters_of_scanUnicodeEscape h rest
    · split at h
      · rename_i meant known
        cases h
        exact .letter ((escapeLetter?_eq_some_iff letter c).1 known) rest
      · cases h

private theorem scanEscape_letter {letter meant : Char} (known : (letter, meant) ∈ letterEscapes) (s : List Char) :
    scanEscape (letter :: s) = .ok (meant, s) := by
  have meaning := (escapeLetter?_eq_some_iff letter meant).2 known
  rw [scanEscape, if_neg, meaning]
  rintro rfl
  cases meaning

private theorem scanEscape_scalar (digits : FourHexDigits n s t) (low : isLowSurrogate n = false)
    (high : isHighSurrogate n = false) : scanEscape ('u' :: s) = .ok (Char.ofNat n, t) := by
  rw [scanEscape, if_pos rfl, scanUnicodeEscape, scanCodeUnit_eq_ok_iff.2 digits]
  simp [low, high, bind, Except.bind]

private theorem scanEscape_pair {m : Nat} {u : List Char} (digits : FourHexDigits n s ('\\' :: 'u' :: t))
    (digits' : FourHexDigits m t u) (high : isHighSurrogate n = true) (low : isLowSurrogate m = true) :
    scanEscape ('u' :: s) = .ok (joinedSurrogates n m, u) := by
  have second := scanCodeUnit_eq_ok_iff.2 digits'
  rw [scanEscape, if_pos rfl, scanUnicodeEscape, scanCodeUnit_eq_ok_iff.2 digits]
  simp [not_isLowSurrogate_of_isHighSurrogate high, high, low, scanPairLink, second, bind, Except.bind]

private theorem Characters.of_nil (h : Characters [] s r) : s = '"' :: r := by
  generalize whole : [] = all at h
  cases h with
  | close => rfl
  | plain => exact absurd (List.append_eq_nil_iff.1 whole.symm).1 (utf16Units_ne_nil _)
  | letter => exact absurd (List.append_eq_nil_iff.1 whole.symm).1 (utf16Units_ne_nil _)
  | unit => cases whole

/-- A low surrogate is only spelled by an escape of its own. -/
theorem Characters.of_low {m : UInt16} (low : isLowSurrogate m.toNat = true)
    (h : Characters (m :: units) s r) :
    ∃ n t u, s = '\\' :: 'u' :: t ∧ FourHexDigits n t u ∧ m = UInt16.ofNat n ∧ Characters units u r := by
  have first {c : Char} {more : List UInt16} (same : m :: units = utf16Units c ++ more) : False := by
    rcases utf16Units_cases c with ⟨n, low', -, -, parts⟩ | ⟨n, m', high, -, -, parts⟩ <;>
      rw [parts] at same <;> obtain ⟨rfl, -⟩ := List.cons.inj same
    · rw [low] at low'; cases low'
    · rw [not_isLowSurrogate_of_isHighSurrogate high] at low; cases low
  generalize whole : m :: units = all at h
  cases h with
  | close => cases whole
  | plain => exact (first whole).elim
  | letter => exact (first whole).elim
  | unit digits rest =>
    obtain ⟨rfl, rfl⟩ := List.cons.inj whole
    exact ⟨_, _, _, rfl, digits, rfl, rest⟩

/-- How a string begins that spells the code units of a character first. -/
theorem Characters.uncons {c : Char} (h : Characters (utf16Units c ++ units) s r) :
    (∃ t, s = c :: t ∧ (c ≠ '"' ∧ c ≠ '\\' ∧ 0x20 ≤ c.toNat) ∧ Characters units t r) ∨
      ∃ t u, s = '\\' :: t ∧ scanEscape t = .ok (c, u) ∧ Characters units u r := by
  generalize whole : utf16Units c ++ units = all at h
  cases h with
  | close => exact absurd (List.append_eq_nil_iff.1 whole).1 (utf16Units_ne_nil c)
  | plain free rest =>
    obtain ⟨rfl, rfl⟩ := utf16Units_append_inj whole
    exact .inl ⟨_, rfl, free, rest⟩
  | letter known rest =>
    obtain ⟨rfl, rfl⟩ := utf16Units_append_inj whole
    exact .inr ⟨_, _, rfl, scanEscape_letter known _, rest⟩
  | @unit n units' s t r digits rest =>
    have unit := toNat_unit digits.small
    rcases utf16Units_cases c with ⟨n', low, high, is, parts⟩ | ⟨n', m, high, low, is, parts⟩ <;>
      rw [parts] at whole <;> obtain ⟨rfl, rfl⟩ := List.cons.inj whole <;> rw [unit] at high is
    · rw [unit] at low
      exact .inr ⟨_, _, rfl, is ▸ scanEscape_scalar digits low high, rest⟩
    · obtain ⟨k, v, u, rfl, digits', rfl, rest'⟩ := rest.of_low low
      rw [toNat_unit digits'.small] at low is
      exact .inr ⟨_, _, rfl, is ▸ scanEscape_pair digits digits' high low, rest'⟩

/-- A string is kept as the text of which it spells the code units. -/
theorem scanString_eq_ok_iff {text : List Char} :
    scanString s = .ok (text, r) ↔ Characters (text.flatMap utf16Units) s r := by
  constructor
  · intro h
    fun_induction scanString s generalizing text with
    | case1 => cases h
    | case2 => cases h; exact .close _
    | case3 s meant t escape _ ih =>
      obtain ⟨⟨later, r'⟩, found, same⟩ := map_eq_ok_iff.1 h
      cases same
      exact characters_of_scanEscape escape (ih found)
    | case4 => cases h
    | case5 => cases h
    | case6 c s quote slash control ih =>
      obtain ⟨⟨later, r'⟩, found, same⟩ := map_eq_ok_iff.1 h
      cases same
      exact .plain ⟨quote, slash, by omega⟩ (ih found)
  · intro h
    induction text generalizing s with
    | nil =>
      obtain rfl := h.of_nil
      rw [scanString, if_pos rfl]
    | cons c text ih =>
      rcases h.uncons with ⟨t, rfl, free, rest⟩ | ⟨t, u, rfl, escape, rest⟩
      · rw [scanString, if_neg free.1, if_neg free.2.1, if_neg (by omega), ih rest]
        rfl
      · rw [scanString_cons_escape escape, ih rest]
        rfl

end CollectionGlue
