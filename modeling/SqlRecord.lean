import SqlRecord.Database.Basic
import SqlRecord.Model.Run
import SqlRecord.Value.OfHost
import SqlRecord.Proofs.Builder
import SqlRecord.Proofs.Lexeme
import SqlRecord.Proofs.Outline
import SqlRecord.Proofs.Names
import SqlRecord.Proofs.Numerals
import SqlRecord.Proofs.Clauses
import SqlRecord.Proofs.Statements
import SqlRecord.Proofs.Injection
import SqlRecord.Proofs.Floats
import SqlRecord.Proofs.Fields
import SqlRecord.Proofs.Cells
import SqlRecord.Proofs.Parameters
import SqlRecord.Proofs.RoundTrip
import SqlRecord.Proofs.WriteBack
import SqlRecord.Proofs.Operators
import SqlRecord.Proofs.Restriction
import SqlRecord.Proofs.RowIds
import SqlRecord.Proofs.Saving
import SqlRecord.Proofs.WrittenColumns
import SqlRecord.Proofs.Shapes
import SqlRecord.Proofs.WellFormed
import SqlRecord.Proofs.Booleans
import SqlRecord.Proofs.Upserts
import SqlRecord.Proofs.JoinConditions
import SqlRecord.Proofs.VisibleColumns
import SqlRecord.Proofs.PrintedOperators
import SqlRecord.Proofs.OperatorCase
import SqlRecord.Proofs.NullComparisons
import SqlRecord.Proofs.PermittedColumns
import SqlRecord.Proofs.Readings
import SqlRecord.Proofs.Lenses
import SqlRecord.Proofs.GuardedUpdates
import SqlRecord.Proofs.GivenKeys
import SqlRecord.Proofs.UpsertOutcomes
import SqlRecord.Proofs.AliasWords
import SqlRecord.Proofs.Segments
import SqlRecord.Proofs.PaddedNames
import SqlRecord.Proofs.Pagination
import SqlRecord.Proofs.JoiningWords
import SqlRecord.Proofs.Insertions
import SqlRecord.Proofs.Settings
