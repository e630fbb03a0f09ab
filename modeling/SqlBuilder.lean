import SqlBuilder.Binary.Format
import SqlBuilder.Binary.Rounding
import SqlBuilder.Comparison
import SqlBuilder.Config.Basic
import SqlBuilder.Config.Environment
import SqlBuilder.Config.Location
import SqlBuilder.Config.Text
import SqlBuilder.Connection.Backend
import SqlBuilder.Connection.Connector
import SqlBuilder.Connection.Driver
import SqlBuilder.Connection.Error
import SqlBuilder.Connection.Execution
import SqlBuilder.Connection.Operation
import SqlBuilder.Connection.Positional
import SqlBuilder.Connection.Rows
import SqlBuilder.Connection.Scripted
import SqlBuilder.Connection.Session
import SqlBuilder.Connection.Shared
import SqlBuilder.Decimal.Notation
import SqlBuilder.Decimal.Numeral
import SqlBuilder.Decimal.Shortest
import SqlBuilder.Description.Connector
import SqlBuilder.Description.Layout
import SqlBuilder.Description.Session
import SqlBuilder.Description.Value
import SqlBuilder.Dialect
import SqlBuilder.Json.Basic
import SqlBuilder.Json.Decode
import SqlBuilder.Json.Outline
import SqlBuilder.Json.Printer
import SqlBuilder.Json.Reading
import SqlBuilder.Json.Typed
import SqlBuilder.Map.Ordered
import SqlBuilder.Map.Sorted
import SqlBuilder.Proofs.BinaryNumbers
import SqlBuilder.Proofs.Breakdowns
import SqlBuilder.Proofs.ClosedConnectors
import SqlBuilder.Proofs.ColumnNames
import SqlBuilder.Proofs.ColumnParameters
import SqlBuilder.Proofs.ConcealedPasswords
import SqlBuilder.Proofs.ConfigSpellings
import SqlBuilder.Proofs.ConnectorOpening
import SqlBuilder.Proofs.DecimalNumerals
import SqlBuilder.Proofs.DraftBindings
import SqlBuilder.Proofs.DriverFailures
import SqlBuilder.Proofs.EditOrder
import SqlBuilder.Proofs.EditedDrafts
import SqlBuilder.Proofs.EnvironmentChecks
import SqlBuilder.Proofs.FieldBatches
import SqlBuilder.Proofs.FirstFailures
import SqlBuilder.Proofs.GeneratedIds
import SqlBuilder.Proofs.JoinedTexts
import SqlBuilder.Proofs.JsonRoundTrip
import SqlBuilder.Proofs.MarkerNumbers
import SqlBuilder.Proofs.OperationPlans
import SqlBuilder.Proofs.OrderedMaps
import SqlBuilder.Proofs.ParameterDelivery
import SqlBuilder.Proofs.PercentDecoding
import SqlBuilder.Proofs.PositionalMachine
import SqlBuilder.Proofs.PositionalTokens
import SqlBuilder.Proofs.Presentations
import SqlBuilder.Proofs.ReachableSessions
import SqlBuilder.Proofs.RewrittenTokens
import SqlBuilder.Proofs.RowDecoding
import SqlBuilder.Proofs.ServerLocations
import SqlBuilder.Proofs.SharedTurns
import SqlBuilder.Proofs.StatementCalls
import SqlBuilder.Proofs.StatementIsolation
import SqlBuilder.Proofs.StatementPieces
import SqlBuilder.Proofs.StatementPreviews
import SqlBuilder.Proofs.StatementReading
import SqlBuilder.Proofs.StatementRefusals
import SqlBuilder.Proofs.StatementWords
import SqlBuilder.Proofs.TypedReads
import SqlBuilder.Proofs.UrlPaths
import SqlBuilder.Proofs.UrlTexts
import SqlBuilder.Proofs.ValueErasure
import SqlBuilder.Proofs.ValueIndependence
import SqlBuilder.Proofs.WireRoundTrip
import SqlBuilder.Proofs.WrittenJson
import SqlBuilder.Statement.Clause
import SqlBuilder.Statement.Column
import SqlBuilder.Statement.Draft
import SqlBuilder.Statement.Prepared
import SqlBuilder.Statement.Sql
import SqlBuilder.Text.Alphabetic
import SqlBuilder.Text.Concealed
import SqlBuilder.Text.Integer
import SqlBuilder.Text.Numeric
import SqlBuilder.Text.Percent
import SqlBuilder.Text.Quoted
import SqlBuilder.Text.Word
import SqlBuilder.Url.Basic
import SqlBuilder.Url.Ipv6
import SqlBuilder.Url.Path
import SqlBuilder.Value.Basic
import SqlBuilder.Value.Json
import SqlBuilder.Value.Wire
