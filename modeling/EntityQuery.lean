import EntityQuery.CommandLine.Arguments
import EntityQuery.CommandLine.Error
import EntityQuery.CommandLine.Fixtures
import EntityQuery.CommandLine.Run
import EntityQuery.Connection.Basic
import EntityQuery.Connection.Config
import EntityQuery.Connection.Json
import EntityQuery.Gql.Error
import EntityQuery.Gql.Keyword
import EntityQuery.Gql.Lexer
import EntityQuery.Gql.Parser
import EntityQuery.Gql.Statement
import EntityQuery.Gql.Token
import EntityQuery.Gql.Writer
import EntityQuery.Journal.Basic
import EntityQuery.Journal.Line
import EntityQuery.Journal.Scope
import EntityQuery.Journal.Severity
import EntityQuery.Json.Basic
import EntityQuery.Json.Fields
import EntityQuery.Json.Lexeme
import EntityQuery.Json.Number
import EntityQuery.Json.Source
import EntityQuery.Json.Writer
import EntityQuery.Key.Basic
import EntityQuery.Key.Id
import EntityQuery.Key.Json
import EntityQuery.Main
import EntityQuery.Number.Binary64
import EntityQuery.Number.Notation
import EntityQuery.Number.Power
import EntityQuery.Number.Scaled
import EntityQuery.Number.Shortest
import EntityQuery.OrderedMap
import EntityQuery.Query.Basic
import EntityQuery.Query.Clause
import EntityQuery.Query.Compile
import EntityQuery.Query.Error
import EntityQuery.Query.Operator
import EntityQuery.Record.Basic
import EntityQuery.Record.Cursor
import EntityQuery.Request.Basic
import EntityQuery.Request.Json
import EntityQuery.Session.Basic
import EntityQuery.Session.Execution
import EntityQuery.Session.Insertion
import EntityQuery.Store.Client
import EntityQuery.Store.Compare
import EntityQuery.Store.Entity
import EntityQuery.Store.Error
import EntityQuery.Store.Memory
import EntityQuery.Store.Recorded
import EntityQuery.Store.Scripted
import EntityQuery.Text.Blank
import EntityQuery.Text.CodePoints
import EntityQuery.Text.Digits
import EntityQuery.Text.Letter
import EntityQuery.Text.Printable
import EntityQuery.Text.Quoted
import EntityQuery.Time.Calendar
import EntityQuery.Time.Instant
import EntityQuery.TotalOrder
import EntityQuery.Proofs.Number.Nearest
import EntityQuery.Proofs.Text.Decimal
import EntityQuery.Proofs.Number.ReadBack
import EntityQuery.Proofs.Time.Calendar
import EntityQuery.Proofs.Time.ReadBack
import EntityQuery.Proofs.Json.Reread
import EntityQuery.Proofs.Gql.Lexemes
import EntityQuery.Proofs.Gql.Written
import EntityQuery.Proofs.Gql.Meaning
import EntityQuery.Proofs.Gql.RoundTrip
import EntityQuery.Proofs.Gql.KeyLiterals
import EntityQuery.Proofs.Gql.Quoting
import EntityQuery.Proofs.Gql.Separation
import EntityQuery.Proofs.Store.Run
import EntityQuery.Proofs.Store.Sequences
import EntityQuery.Proofs.Session.Interleaving
import EntityQuery.Proofs.Session.Answers
import EntityQuery.Proofs.Session.Lookup
import EntityQuery.Proofs.Session.ReadYourWrites
import EntityQuery.Proofs.Store.Addressed
import EntityQuery.Proofs.Store.Refused
import EntityQuery.Proofs.Number.Size
import EntityQuery.Proofs.Session.Refusal
import EntityQuery.Proofs.Json.SortOrder
import EntityQuery.Proofs.Store.ResultOrder
import EntityQuery.Proofs.Session.Window
import EntityQuery.Proofs.Store.Representation
import EntityQuery.Proofs.Store.Namespaces
import EntityQuery.Proofs.Session.Requests
import EntityQuery.Proofs.Session.AllocatedId
import EntityQuery.Proofs.Json.SelfComparison
import EntityQuery.Proofs.Session.StoredValue
import EntityQuery.Proofs.Gql.Derivation
import EntityQuery.Proofs.Gql.Recognition
import EntityQuery.Proofs.Gql.Values
import EntityQuery.Proofs.Gql.Conditions
import EntityQuery.Proofs.Gql.Grammar
import EntityQuery.Proofs.Query.Compilation
import EntityQuery.Proofs.Session.Insertions
import EntityQuery.Proofs.Session.Operations
import EntityQuery.Proofs.Store.Commutation
import EntityQuery.Proofs.Session.RenderedRequests
import EntityQuery.Proofs.Session.CursorFailures
import EntityQuery.Proofs.Store.LawfulSort
import EntityQuery.Proofs.Number.Rounding
import EntityQuery.Proofs.Json.IntegerOrder
import EntityQuery.Proofs.Session.IntegerFilters
import EntityQuery.Proofs.Session.KeyPaging
import EntityQuery.Proofs.Session.Draining
import EntityQuery.Proofs.Session.LoggedInsertions
import EntityQuery.Proofs.Session.BulkInsertion
import EntityQuery.Proofs.Session.ScopedExecutions
import EntityQuery.Proofs.Json.Escapes
import EntityQuery.Proofs.Json.ReadBack
import EntityQuery.Proofs.Key.ReadBack
import EntityQuery.Proofs.Key.Building
import EntityQuery.Proofs.Key.Ids
import EntityQuery.Proofs.Text.Integers
import EntityQuery.Proofs.Store.Completeness
import EntityQuery.Proofs.Journal.Lines
import EntityQuery.Proofs.Journal.Scopes
import EntityQuery.Proofs.Query.AddedClauses
import EntityQuery.Proofs.Json.Size
import EntityQuery.Proofs.Session.NumberedShelves
import EntityQuery.Proofs.Session.SeededFixtures
