import CollectionGlue.TextScanning
import CollectionGlue.Proofs.JsonGrammar

/-! # Characters and their UTF-16 code units

A character is one code unit that is no surrogate, or a high surrogate and a low one. So decoding gives
back exactly the texts that code units encode, and code units with half a pair alone have none.
-/
namespace CollectionGlue

/-- The characters of a UTF-16 text, none when half a surrogate pair stands alone. -/
def decodeUtf16? : List UInt16 → Option (List Char)
  | [] => some []
  | n :: units =>
    if isLowSurrogate n.toNat then none
    else if isHighSurrogate n.toNat then
      match units with
      | [] => none
      | m :: units =>
        if isLowSurrogate m.toNat then
          (decodeUtf16? units).map (joinedSurrogates n.toNat m.toNat :: ·)
        else none
    else (decodeUtf16? units).map (Char.ofNat n.toNat :: ·)

theorem isLowSurrogate_iff (n : Nat) : isLowSurrogate n = true ↔ 0xDC00 ≤ n ∧ n ≤ 0xDFFF := by
  simp [isLowSurrogate]

theorem isHighSurrogate_iff (n : Nat) : isHighSurrogate n = true ↔ 0xD800 ≤ n ∧ n ≤ 0xDBFF := by
  simp [isHighSurrogate]

theorem not_isLowSurrogate_of_isHighSurrogate {n : Nat} (high : isHighSurrogate n = true) :
    isLowSurrogate n = false := by
  rw [isHighSurrogate_iff] at high
  rw [Bool.eq_false_iff, Ne, isLowSurrogate_iff]
  omega

private theorem Char.toNat_scalar (c : Char) :
    c.toNat < 0xD800 ∨ (0xDFFF < c.toNat ∧ c.toNat < 0x110000) :=
  c.valid

theorem toNat_unit {n : Nat} (small : n < 0x10000) : (UInt16.ofNat n).toNat = n := by
  rw [UInt16.toNat_ofNat']
  exact Nat.mod_eq_of_lt small

private theorem toNat_scalar {n : Nat} (scalar : n < 0xD800 ∨ (0xDFFF < n ∧ n < 0x110000)) :
    (Char.ofNat n).toNat = n := by
  rw [Char.ofNat, dif_pos scalar]
  rfl

private theorem decodeUtf16?_low {n : UInt16} (low : isLowSurrogate n.toNat = true) (units : List UInt16) :
    decodeUtf16? (n :: units) = none := by
  rw [decodeUtf16?.eq_def]
  exact if_pos low

private theorem decodeUtf16?_scalar {n : UInt16} (low : isLowSurrogate n.toNat = false)
    (high : isHighSurrogate n.toNat = false) (units : List UInt16) :
    decodeUtf16? (n :: units) = (decodeUtf16? units).map (Char.ofNat n.toNat :: ·) := by
  rw [decodeUtf16?.eq_def]
  simp only [low, high, Bool.false_eq_true, if_false]

private theorem decodeUtf16?_pair {n m : UInt16} (high : isHighSurrogate n.toNat = true)
    (low : isLowSurrogate m.toNat = true) (units : List UInt16) :
    decodeUtf16? (n :: m :: units) =
      (decodeUtf16? units).map (joinedSurrogates n.toNat m.toNat :: ·) := by
  simp [decodeUtf16?, low, high, not_isLowSurrogate_of_isHighSurrogate high]

/-- A high surrogate must not stand before anything but a low one. -/
theorem decodeUtf16?_high {n : UInt16} (high : isHighSurrogate n.toNat = true) {units : List UInt16}
    (alone : ∀ m ∈ units.head?, isLowSurrogate m.toNat = false) : decodeUtf16? (n :: units) = none := by
  cases units with
  | nil => simp [decodeUtf16?, high]
  | cons m units => simp [decodeUtf16?, high, alone m rfl]

theorem utf16Units_scalar {n : UInt16} (low : isLowSurrogate n.toNat = false)
    (high : isHighSurrogate n.toNat = false) : utf16Units (Char.ofNat n.toNat) = [n] := by
  have small := n.toNat_lt
  rw [Bool.eq_false_iff, Ne, isLowSurrogate_iff] at low
  rw [Bool.eq_false_iff, Ne, isHighSurrogate_iff] at high
  rw [utf16Units, toNat_scalar (by omega), if_pos (by omega), UInt16.ofNat_toNat]

theorem utf16Units_pair {n m : UInt16} (high : isHighSurrogate n.toNat = true)
    (low : isLowSurrogate m.toNat = true) : utf16Units (joinedSurrogates n.toNat m.toNat) = [n, m] := by
  rw [isHighSurrogate_iff] at high
  rw [isLowSurrogate_iff] at low
  have first : UInt16.ofNat (0xD800 + (0x10000 + (n.toNat - 0xD800) * 0x400 + (m.toNat - 0xDC00) -
      0x10000) / 0x400) = n := by
    rw [← UInt16.toNat_inj, toNat_unit] <;> omega
  have second : UInt16.ofNat (0xDC00 + (0x10000 + (n.toNat - 0xD800) * 0x400 + (m.toNat - 0xDC00) -
      0x10000) % 0x400) = m := by
    rw [← UInt16.toNat_inj, toNat_unit] <;> omega
  rw [utf16Units, joinedSurrogates, toNat_scalar (by omega), if_neg (by omega), first, second]

/-- A character is one code unit that is no surrogate, or a high surrogate and a low one. -/
theorem utf16Units_cases (c : Char) :
    (∃ n : UInt16, isLowSurrogate n.toNat = false ∧ isHighSurrogate n.toNat = false ∧
      c = Char.ofNat n.toNat ∧ utf16Units c = [n]) ∨
    ∃ n m : UInt16, isHighSurrogate n.toNat = true ∧ isLowSurrogate m.toNat = true ∧
      c = joinedSurrogates n.toNat m.toNat ∧ utf16Units c = [n, m] := by
  have scalar := Char.toNat_scalar c
  by_cases small : c.toNat < 0x10000
  · have unit : (UInt16.ofNat c.toNat).toNat = c.toNat := toNat_unit small
    refine .inl ⟨UInt16.ofNat c.toNat, ?_, ?_, ?_, if_pos small⟩
    · rw [unit, Bool.eq_false_iff, Ne, isLowSurrogate_iff]; omega
    · rw [unit, Bool.eq_false_iff, Ne, isHighSurrogate_iff]; omega
    · rw [unit, Char.ofNat_toNat]
  · have high := toNat_unit (n := 0xD800 + (c.toNat - 0x10000) / 0x400) (by omega)
    have low := toNat_unit (n := 0xDC00 + (c.toNat - 0x10000) % 0x400) (by omega)
    refine .inr ⟨_, _, ?_, ?_, ?_, if_neg small⟩
    · rw [high, isHighSurrogate_iff]; omega
    · rw [low, isLowSurrogate_iff]; omega
    · have joined : 0x10000 + (0xD800 + (c.toNat - 0x10000) / 0x400 - 0xD800) * 0x400 +
          (0xDC00 + (c.toNat - 0x10000) % 0x400 - 0xDC00) = c.toNat := by omega
      rw [high, low, joinedSurrogates, joined, Char.ofNat_toNat]

private theorem decodeUtf16?_append (c : Char) (units : List UInt16) :
    decodeUtf16? (utf16Units c ++ units) = (decodeUtf16? units).map (c :: ·) := by
  rcases utf16Units_cases c with ⟨n, low, high, is, same⟩ | ⟨n, m, high, low, is, same⟩
  · rw [same, List.singleton_append, decodeUtf16?_scalar low high, ← is]
  · rw [same, List.cons_append, List.singleton_append, decodeUtf16?_pair high low, ← is]

theorem utf16Units_ne_nil (c : Char) : utf16Units c ≠ [] := by
  unfold utf16Units
  split <;> exact List.cons_ne_nil _ _

theorem utf16Units_append_inj {c c' : Char} {units units' : List UInt16}
    (same : utf16Units c ++ units = utf16Units c' ++ units') : c = c' ∧ units = units' := by
  rcases utf16Units_cases c with ⟨n, -, high, is, parts⟩ | ⟨n, m, high, -, is, parts⟩ <;>
    rcases utf16Units_cases c' with ⟨n', -, high', is', parts'⟩ | ⟨n', m', high', -, is', parts'⟩ <;>
    rw [parts, parts'] at same <;> obtain ⟨rfl, rest⟩ := List.cons.inj same
  · exact ⟨is.trans is'.symm, rest⟩
  · rw [high] at high'; cases high'
  · rw [high] at high'; cases high'
  · obtain ⟨rfl, rest'⟩ := List.cons.inj rest
    exact ⟨is.trans is'.symm, rest'⟩

/-- Code units are decoded to the characters that are encoded by them. -/
theorem decodeUtf16?_eq_some_iff (units : List UInt16) (text : List Char) :
    decodeUtf16? units = some text ↔ text.flatMap utf16Units = units := by
  constructor
  · intro decoded
    induction units using decodeUtf16?.induct generalizing text with
    | case1 => cases decoded; rfl
    | case2 n units low => rw [decodeUtf16?_low low] at decoded; cases decoded
    | case3 n low high => rw [decodeUtf16?_high high (by simp)] at decoded; cases decoded
    | case4 n _ high m units low ih =>
      rw [decodeUtf16?_pair high low] at decoded
      obtain ⟨rest, found, rfl⟩ := Option.map_eq_some_iff.1 decoded
      rw [List.flatMap_cons, utf16Units_pair high low, ih rest found]
      rfl
    | case5 n _ high m units low =>
      rw [decodeUtf16?_high high (by simpa using low)] at decoded
      cases decoded
    | case6 n units low high ih =>
      rw [Bool.not_eq_true] at low high
      rw [decodeUtf16?_scalar low high] at decoded
      obtain ⟨rest, found, rfl⟩ := Option.map_eq_some_iff.1 decoded
      rw [List.flatMap_cons, utf16Units_scalar low high, ih rest found]
      rfl
  · rintro rfl
    induction text with
    | nil => rfl
    | cons c text ih => rw [List.flatMap_cons, decodeUtf16?_append, ih]; rfl

end CollectionGlue
