import CollectionGlue.Proofs.WrittenEntries

/-! # Compact lists of entries, whatever their strings hold

The text of a list holds no control character, because the writer escapes each of them, and it is read back
as the same list.
-/
namespace CollectionGlue

/-- The compact texts of the entries as the elements of a list. -/
def compactList (entries : List TypeEntry) : String :=
  "[" ++ ",".intercalate (entries.map TypeEntry.compactJson) ++ "]"

private theorem toList_compactList (entries : List TypeEntry) :
    (compactList entries).toList = '[' :: RecordLayout.compact.listChars [] [] entries := by
  have items : entries.map (String.toList ∘ TypeEntry.compactJson) =
      entries.map fun e => [] ++ RecordLayout.compact.entryChars e :=
    List.map_congr_left fun e _ => toList_compactJson e
  unfold compactList RecordLayout.listChars
  rw [← items]
  simp [String.toList_intercalate]

/-- No character is one of those that a JSON string must escape. -/
def Printed (text : List Char) : Prop := ∀ c ∈ text, 0x20 ≤ c.toNat

variable {text text' : List Char}

theorem Printed.append (h : Printed text) (h' : Printed text') : Printed (text ++ text') := by
  intro c mem
  rcases List.mem_append.1 mem with before | behind
  · exact h c before
  · exact h' c behind

theorem Printed.cons {c : Char} (first : 0x20 ≤ c.toNat) (h : Printed text) : Printed (c :: text) := by
  intro d mem
  rcases List.mem_cons.1 mem with rfl | behind
  · exact first
  · exact h d behind

theorem Printed.flatMap {α : Type} {items : List α} {f : α → List Char} (h : ∀ a, Printed (f a)) :
    Printed (items.flatMap f) := by
  intro c mem
  obtain ⟨a, -, here⟩ := List.mem_flatMap.1 mem
  exact h a c here

theorem Printed.intercalate {α : Type} {items : List α} {f : α → List Char} {sep : List Char}
    (between : Printed sep) (h : ∀ a, Printed (f a)) : Printed (sep.intercalate (items.map f)) := by
  cases items with
  | nil =>
    intro c mem
    cases mem
  | cons a items =>
    rw [List.map_cons, intercalate_cons, List.flatMap_map]
    exact (h a).append (.flatMap fun b => between.append (h b))

private theorem printed_digitChar {n : Nat} (small : n < 16) : 0x20 ≤ (Nat.digitChar n).toNat := by
  revert n
  decide

private theorem printed_controlLetter? {c letter : Char} (h : controlLetter? c = some letter) :
    0x20 ≤ letter.toNat := by
  unfold controlLetter? at h
  split_ifs at h <;> cases h <;> decide

private theorem printed_escapedJson (c : Char) : Printed (escapedJson c) := by
  unfold escapedJson
  have none_left : Printed [] := nofun
  split_ifs with mark control
  · refine .cons (by decide) (.cons ?_ none_left)
    rcases mark with rfl | rfl <;> decide
  · split
    · rename_i letter named
      exact .cons (by decide) (.cons (printed_controlLetter? named) none_left)
    · refine .cons (by decide) (.cons (by decide) (.cons (by decide) (.cons (by decide) ?_)))
      exact .cons (printed_digitChar (by omega)) (.cons (printed_digitChar (by omega)) none_left)
  · exact .cons (Nat.le_of_not_lt control) none_left

private theorem printed_jsonStringChars (text : List Char) : Printed (jsonStringChars text) :=
  (Printed.cons (by decide) (.flatMap printed_escapedJson)).append (.cons (by decide) nofun)

private theorem printed_memberChars (member : String × String) :
    Printed (RecordLayout.compact.memberChars member) := by
  have colon : Printed (':' :: jsonStringChars member.2.toList) :=
    .cons (by decide) (printed_jsonStringChars _)
  exact (printed_jsonStringChars member.1.toList).append colon

private theorem printed_entryChars (e : TypeEntry) : Printed (RecordLayout.compact.entryChars e) := by
  have comma : Printed [','] := .cons (by decide) nofun
  have brace : Printed ['\x7d'] := .cons (by decide) nofun
  exact .cons (by decide) ((comma.intercalate printed_memberChars).append brace)

private theorem printed_compactList (entries : List TypeEntry) : Printed (compactList entries).toList := by
  have comma : Printed [','] := .cons (by decide) nofun
  have bracket : Printed [']'] := .cons (by decide) nofun
  rw [toList_compactList]
  exact .cons (by decide) ((comma.intercalate printed_entryChars).append bracket)

private theorem scanEntries_compactList (entries : List TypeEntry) (rest : List Char) :
    scanEntries ((compactList entries).toList ++ rest) = .ok (entries, rest) := by
  rw [toList_compactList]
  unfold scanEntries
  rw [List.cons_append, skipBlanks_cons (by decide)]
  exact scanEntriesFrom_written rfl rfl .compact entries rest

/-- The compact text of any list of entries holds no control character and is read back as that list. -/
theorem readEntries_compactList (entries : List TypeEntry) :
    (∀ c ∈ (compactList entries).toList, 0x20 ≤ c.toNat) ∧ readEntries (compactList entries) = .ok entries := by
  refine ⟨printed_compactList entries, ?_⟩
  have scanned := scanEntries_compactList entries []
  rw [List.append_nil] at scanned
  unfold readEntries readDocument
  rw [scanned]

end CollectionGlue
