import CollectionGlue.Main
import CollectionGlue.Proofs.EscapedStrings
import CollectionGlue.Proofs.WrittenEntries
import CollectionGlue.Proofs.TableReloading
import CollectionGlue.Proofs.FirstFaults
import CollectionGlue.Proofs.SymbolEndings
import CollectionGlue.Proofs.SymbolHygiene
import CollectionGlue.Proofs.ComparatorPrograms
import CollectionGlue.Proofs.ThreeWayComparison
import CollectionGlue.Proofs.JsonGrammar
import CollectionGlue.Proofs.SpelledStrings
import CollectionGlue.Proofs.SpelledNumerals
import CollectionGlue.Proofs.SpelledValues
import CollectionGlue.Proofs.PassedSpellings
import CollectionGlue.Proofs.TreeDecoding
import CollectionGlue.Proofs.StreamedTables
import CollectionGlue.Proofs.UnreadText
import CollectionGlue.Proofs.CompactLists
import CollectionGlue.Proofs.TextRows
import CollectionGlue.Proofs.RecoveredTags
import CollectionGlue.Proofs.RecoveredEntries
import CollectionGlue.Proofs.PathTexts
import CollectionGlue.Proofs.ResolvedPaths
import CollectionGlue.Proofs.TreeChanges
import CollectionGlue.Proofs.RunEffects
import CollectionGlue.Proofs.CommandSpellings
import CollectionGlue.Proofs.TableDumps
import CollectionGlue.Proofs.CollidingNames
import CollectionGlue.Proofs.SelectedEntries
import CollectionGlue.Proofs.HeaderRows
import CollectionGlue.Proofs.RowLayout
import CollectionGlue.Proofs.SourceLayout
import CollectionGlue.Proofs.ComparatorRows
import CollectionGlue.Proofs.GuardInsertion
import CollectionGlue.Proofs.SeparateDefinitions
import CollectionGlue.Proofs.WordOccurrences
import CollectionGlue.Proofs.ComparatorForms
import CollectionGlue.Proofs.ConstructorWiring
import CollectionGlue.Proofs.OpenSpellings
import CollectionGlue.Proofs.FaultPaths
import CollectionGlue.Proofs.FaultyEntries
import CollectionGlue.Proofs.OptionSpellings
import CollectionGlue.Proofs.EntryPieces
import CollectionGlue.Proofs.LoggedRuns
