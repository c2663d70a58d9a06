import CollectionGlue.TableLoading
import CollectionGlue.Proofs.WrittenEntries

/-! # The JSON text of a type table loads as the same table

The reader takes the indented text back to the entries it was written from. Whether a list of entries
makes a table depends on the entries only, so the check that a table passed once it passes again.
-/
namespace CollectionGlue

/-- A line break behind each comma and before the first item is a line break before each item. -/
theorem intercalate_comma_lineBreak (x : List Char) (xs : List (List Char)) :
    '\n' :: [',', '\n'].intercalate (x :: xs) = [','].intercalate ((x :: xs).map ('\n' :: ·)) := by
  rw [List.map_cons, intercalate_cons, intercalate_cons, List.flatMap_map]
  rfl

/-- The entries of a table as they are listed in its text, from behind the opening bracket. -/
def TypeTable.listChars (t : TypeTable) : List Char :=
  RecordLayout.indented.listChars ['\n', ' ', ' ', ' ', ' '] ['\n', ' ', ' '] t.entries

/-- The text of a table is a record with one member, which holds the list of the entries. -/
theorem toList_json (t : TypeTable) :
    t.json.toList = '\x7b' :: (['\n', ' ', ' '] ++ (jsonStringChars "types".toList ++
      ':' :: ' ' :: '[' :: (t.listChars ++ ['\n', '\x7d']))) := by
  have key : jsonStringChars "types".toList = ['"', 't', 'y', 'p', 'e', 's', '"'] := by decide
  have items : t.entries.map (String.toList ∘ TypeEntry.indentedJson) =
      t.entries.map fun e => [' ', ' ', ' ', ' '] ++ RecordLayout.indented.entryChars e := by
    simp [Function.comp_def, toList_indentedJson]
  have broken : '\n' :: [',', '\n'].intercalate
        (t.entries.map fun e => [' ', ' ', ' ', ' '] ++ RecordLayout.indented.entryChars e) =
      [','].intercalate
        (t.entries.map fun e => ['\n', ' ', ' ', ' ', ' '] ++ RecordLayout.indented.entryChars e) := by
    obtain ⟨e, entries, h⟩ := List.exists_cons_of_ne_nil t.acceptable.nonempty
    rw [h, List.map_cons, intercalate_comma_lineBreak]
    simp [Function.comp_def]
  unfold TypeTable.json TypeTable.listChars RecordLayout.listChars
  rw [key, ← broken]
  simp [String.toList_intercalate, items]

/-- A table that was written with blanks between its parts is read back, whatever follows it. -/
theorem scanTable_written {beforeKey beforeList gap endGap beforeEnd : List Char}
    (keyBlank : beforeKey.all isBlank = true) (listBlank : beforeList.all isBlank = true)
    (blank : gap.all isBlank = true) (endBlank : endGap.all isBlank = true)
    (closeBlank : beforeEnd.all isBlank = true) (l : RecordLayout) (entries : List TypeEntry)
    (rest : List Char) :
    scanTable ('\x7b' :: (beforeKey ++ (jsonStringChars "types".toList ++ ':' :: (beforeList ++
        '[' :: (l.listChars gap endGap entries ++ (beforeEnd ++ '\x7d' :: rest)))))) =
      .ok (entries, rest) := by
  have listed : scanEntries (beforeList ++ '[' :: (l.listChars gap endGap entries ++
      (beforeEnd ++ '\x7d' :: rest))) = .ok (entries, beforeEnd ++ '\x7d' :: rest) := by
    unfold scanEntries
    rw [skipBlanks_append listBlank, skipBlanks_cons (by decide)]
    simp only [↓reduceIte]
    exact scanEntriesFrom_written blank endBlank l entries _
  have member : tableShape.member none "types" (':' :: (beforeList ++ '[' ::
      (l.listChars gap endGap entries ++ (beforeEnd ++ '\x7d' :: rest)))) =
        .ok (some entries, beforeEnd ++ '\x7d' :: rest) := by
    simp [tableShape, scanTableMember, scanField_new "types" listed, Except.map]
  unfold scanTable
  rw [skipBlanks_cons (by decide)]
  simp only [Char.reduceEq, ↓reduceIte]
  unfold scanTableRecord
  rw [RecordShape.scan_of_key (nextKey_first keyBlank "types" _) member,
    RecordShape.scan_of_end (nextKey_end beforeEnd closeBlank false rest)]
  rfl

theorem scanTable_json (t : TypeTable) (rest : List Char) :
    scanTable (t.json.toList ++ rest) = .ok (t.entries, rest) := by
  have space : [' '].all isBlank = true := by decide
  have lineBreak : ['\n'].all isBlank = true := by decide
  have whole : t.json.toList ++ rest = '\x7b' :: (['\n', ' ', ' '] ++ (jsonStringChars "types".toList ++
      ':' :: ([' '] ++ '[' :: (t.listChars ++ (['\n'] ++ '\x7d' :: rest))))) := by
    simp [toList_json]
  rw [whole]
  exact scanTable_written (by decide) space (by decide) (by decide) lineBreak .indented t.entries rest

private theorem readTable_json (t : TypeTable) : readTable t.json = .ok t.entries := by
  have written := scanTable_json t []
  rw [List.append_nil] at written
  unfold readTable readDocument
  rw [written]

/-- Dumping a table and loading the text gives the table back, the entries in their order and each
stored spelling stored, each missing one missing. -/
theorem ofJson_json (t : TypeTable) : TypeTable.ofJson t.json = .ok t := by
  unfold TypeTable.ofJson
  rw [readTable_json]
  simp only [TypeTable.ofEntries_eq_ok_iff.2 rfl]
  rfl

end CollectionGlue
