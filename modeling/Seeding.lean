import Seeding.Backend.Traced
import Seeding.Settings.Reader
import Seeding.Main
import Seeding.Random.Script
import Seeding.Proofs.Random.Between
import Seeding.Proofs.Generator.Ranges
import Seeding.Proofs.Generator.Fitting
import Seeding.Proofs.Record
import Seeding.Proofs.Record.Writes
import Seeding.Proofs.Plan.Rows
import Seeding.Proofs.Store.Rules
import Seeding.Proofs.Store.Steps
import Seeding.Proofs.Backend.Calls
import Seeding.Proofs.Store.History
import Seeding.Proofs.Engine.Proceedings
import Seeding.Proofs.Engine.Attempt
import Seeding.Proofs.Engine.Mirror
import Seeding.Proofs.Engine.Run
import Seeding.Proofs.Engine.Tracing
import Seeding.Proofs.Store.Run
import Seeding.Proofs.Postgres.Tokens
import Seeding.Proofs.Postgres.Statement
import Seeding.Proofs.Session
import Seeding.Proofs.Engine.Report
import Seeding.Proofs.Engine.Readiness
import Seeding.Proofs.Backend.Alike
import Seeding.Proofs.Engine.Alike
import Seeding.Proofs.Store.Alike
import Seeding.Proofs.Engine.Truncation
import Seeding.Proofs.Engine.Composition
import Seeding.Proofs.Backend.Transactions
import Seeding.Proofs.Engine.Transactions
import Seeding.Proofs.Postgres.Parameters
import Seeding.Proofs.Backend.InStep
import Seeding.Proofs.Random.Tape
import Seeding.Proofs.Random.Acceptance
import Seeding.Proofs.Random.Fair
import Seeding.Proofs.Random.Ahead
import Seeding.Proofs.Generator.Fair
import Seeding.Proofs.Generator.Strings
import Seeding.Proofs.Generator.Exact
import Seeding.Proofs.Store.Courses
import Seeding.Proofs.Plan.Declarations
import Seeding.Proofs.Store.Failures
import Seeding.Proofs.Store.Numbering
import Seeding.Proofs.Session.Declarations
import Seeding.Proofs.Store.Log
import Seeding.Proofs.Store.Occupied
import Seeding.Proofs.Text.Padding
import Seeding.Proofs.Settings
import Seeding.Proofs.Store.Typing
import Seeding.Proofs.Json.Lexeme
import Seeding.Proofs.Json.Sorted
import Seeding.Proofs.Json.Document
import Seeding.Proofs.Json.Records
import Seeding.Proofs.Plan.Limits
import Seeding.Proofs.Demo
import Seeding.Proofs.CommandLine
