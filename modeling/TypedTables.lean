import TypedTables.File.Sandbox
import TypedTables.Main
import TypedTables.Proofs.Batch.Dictionaries
import TypedTables.Proofs.Batch.Isolation
import TypedTables.Proofs.ColumnType.Converter
import TypedTables.Proofs.ColumnType.TextLength
import TypedTables.Proofs.File.Place
import TypedTables.Proofs.Grid.Grammar
import TypedTables.Proofs.Row.Hero
import TypedTables.Proofs.Row.Requests
import TypedTables.Proofs.Row.Standard
import TypedTables.Proofs.RowType.Agreement
import TypedTables.Proofs.RowType.StandardTemplate
import TypedTables.Proofs.Settings.Document
import TypedTables.Proofs.Settings.Overwriting
import TypedTables.Proofs.Table.DictionaryRoundTrip
import TypedTables.Proofs.Table.Header
import TypedTables.Proofs.Table.KeyFinding
import TypedTables.Proofs.Table.Malformed
import TypedTables.Proofs.Table.Text
import TypedTables.Proofs.Wire.Format
import TypedTables.Row.Hero
