import CollectionGlue.Proofs.StreamedTables
import CollectionGlue.Proofs.TableReloading

/-! # What loading a table reads of its text

A reader stops behind the value that it has read. So a table is loaded from a whole document that the text
begins with, and what follows the document is left unread, whatever it is.
-/
namespace CollectionGlue

variable {α : Type} {scan : List Char → Except Fault (α × List Char)} {decode : JsonTree → Option α}
  {s r : List Char} {a : α}

/-- A reader has read a document, and reads the same from it before any other text. -/
theorem Reads.framed (reads : Reads scan decode) (h : scan s = .ok (a, r)) :
    ∃ document, s = document ++ r ∧ (∃ tree, Document tree document) ∧
      ∀ more, scan (document ++ more) = .ok (a, more) := by
  obtain ⟨tree, spelled, decoded⟩ := (reads s a r).1 h
  obtain ⟨document, -, whole, again⟩ := spelled.framed
  have alone : Spells (.spaced tree) document [] := by
    have bare := again []
    rwa [List.append_nil] at bare
  refine ⟨document, whole, ⟨tree, [], alone, .refl []⟩, fun more => ?_⟩
  exact (reads _ _ _).2 ⟨tree, again more, decoded⟩

/-- A text of which something was read is a document when only blanks are left. -/
theorem Reads.document_iff (reads : Reads scan decode) (noNumeral : ∀ text, decode (.numeral text) = none)
    (h : scan s = .ok (a, r)) : (∃ tree, Document tree s) ↔ Gap r [] := by
  obtain ⟨tree, spelled, decoded⟩ := (reads s a r).1 h
  constructor
  · rintro ⟨tree', r', spelled', gap⟩
    have stop : tree.Stops r := by
      cases tree with
      | numeral text => exact absurd decoded (by rw [noNumeral]; nofun)
      | _ => trivial
    have stop' := (gap.numeralStops numeralStops_nil).stops tree'
    obtain ⟨-, rfl⟩ := spelled.alone stop tree' r' stop' spelled'
    exact gap
  · exact fun gap => ⟨tree, r, spelled, gap⟩

theorem ofJson_eq_of_scanTable {source : String} {entries : List TypeEntry} {r : List Char}
    (h : scanTable source.toList = .ok (entries, r)) :
    TypeTable.ofJson source = (TypeTable.ofEntries entries).mapError .rejected := by
  unfold TypeTable.ofJson readTable readDocument
  rw [h]

private theorem exists_scanTable {source : String} (h : ∀ fault, TypeTable.ofJson source ≠ .error (.malformed fault)) :
    ∃ entries r, scanTable source.toList = .ok (entries, r) := by
  cases scanned : scanTable source.toList with
  | ok found => exact ⟨found.1, found.2, rfl⟩
  | error fault =>
    refine absurd ?_ (h (fault.located source.toList))
    unfold TypeTable.ofJson readTable readDocument
    rw [scanned]

/-- A text that is not refused as malformed begins with a document, which alone decides what it is loaded as.
The whole text is a document when nothing but blanks follows that. -/
theorem ofJson_reads_document {source : String}
    (h : ∀ fault, TypeTable.ofJson source ≠ .error (.malformed fault)) :
    ∃ document rest, source.toList = document ++ rest ∧ (∃ tree, Document tree document) ∧
      (∀ more, TypeTable.ofJson (String.ofList (document ++ more)) = TypeTable.ofJson source) ∧
      ((∃ tree, Document tree source.toList) ↔ Gap rest []) := by
  obtain ⟨entries, rest, scanned⟩ := exists_scanTable h
  obtain ⟨document, whole, spelled, again⟩ := reads_scanTable.framed scanned
  refine ⟨document, rest, whole, spelled, fun more => ?_, reads_scanTable.document_iff (fun _ => rfl) scanned⟩
  have scanned' : scanTable (String.ofList (document ++ more)).toList = .ok (entries, more) := by
    rw [String.toList_ofList]
    exact again more
  rw [ofJson_eq_of_scanTable scanned, ofJson_eq_of_scanTable scanned']

def intTable : TypeTable where
  entries := [⟨"int", .signed, none⟩]
  acceptable :=
    { nonempty := by decide
      valid := by decide +kernel
      distinct_tags := by decide
      distinct_constructors := by decide }

/-- The brackets of a list and of a record are closed behind the first of two entries. -/
def brokenTableText : String :=
  "\x7b\"types\":[\x7b\"tag\":\"int\",\"signedness\":\"signed\"\x7d]\x7d,\x7b\"tag\":\"long\",\"signedness\":\"signed\"\x7d]\x7d"

private theorem scanTable_brokenTableText : scanTable brokenTableText.toList =
    .ok (intTable.entries, ",\x7b\"tag\":\"long\",\"signedness\":\"signed\"\x7d]\x7d".toList) := by
  have noBlank : ([] : List Char).all isBlank = true := rfl
  have written := scanTable_written noBlank noBlank noBlank noBlank noBlank .compact intTable.entries
    ",\x7b\"tag\":\"long\",\"signedness\":\"signed\"\x7d]\x7d".toList
  exact written

private theorem ofJson_brokenTableText : TypeTable.ofJson brokenTableText = .ok intTable := by
  rw [ofJson_eq_of_scanTable scanTable_brokenTableText, TypeTable.ofEntries_eq_ok_iff.2 rfl]
  rfl

theorem brokenTableText_reads_document :
    (∀ fault, TypeTable.ofJson brokenTableText ≠ .error (.malformed fault)) ∧
      ∃ document rest, brokenTableText.toList = document ++ rest ∧ (∃ tree, Document tree document) ∧
        (∀ more, TypeTable.ofJson (String.ofList (document ++ more)) = TypeTable.ofJson brokenTableText) ∧
        ((∃ tree, Document tree brokenTableText.toList) ↔ Gap rest []) := by
  have accepted : ∀ fault, TypeTable.ofJson brokenTableText ≠ .error (.malformed fault) := by
    rw [ofJson_brokenTableText]
    exact nofun
  exact ⟨accepted, ofJson_reads_document accepted⟩

theorem brokenTableText_accepted :
    TypeTable.ofJson brokenTableText = .ok intTable ∧ ¬∃ tree, Document tree brokenTableText.toList := by
  refine ⟨ofJson_brokenTableText, fun document => ?_⟩
  have gap := (reads_scanTable.document_iff (fun _ => rfl) scanTable_brokenTableText).1 document
  have left := gap.skipBlanks_eq
  revert left
  decide

end CollectionGlue
