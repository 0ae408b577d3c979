import Fieldwork.Chain.Basic
import Fieldwork.Chain.Context
import Fieldwork.Chain.RowUpdate
import Fieldwork.Chain.Scripted
import Fieldwork.Column
import Fieldwork.Condition.Basic
import Fieldwork.Condition.Document
import Fieldwork.Config.Basic
import Fieldwork.Config.Load
import Fieldwork.Console
import Fieldwork.Decimal.Double
import Fieldwork.Decimal.Layout
import Fieldwork.Decimal.Reading
import Fieldwork.Decimal.Shortest
import Fieldwork.Event
import Fieldwork.Fault
import Fieldwork.Json.Decode
import Fieldwork.Json.Document
import Fieldwork.Json.Printer
import Fieldwork.Json.Reader
import Fieldwork.Json.Value
import Fieldwork.Lane.Basic
import Fieldwork.Lane.Document
import Fieldwork.Lane.Roster
import Fieldwork.Main
import Fieldwork.Model
import Fieldwork.Object.Basic
import Fieldwork.Object.Document
import Fieldwork.Options.Basic
import Fieldwork.Options.Document
import Fieldwork.Plan.Basic
import Fieldwork.Plan.Compile
import Fieldwork.Predicate.Basic
import Fieldwork.Predicate.Sql
import Fieldwork.Proofs.Access
import Fieldwork.Proofs.Chain.Announcement
import Fieldwork.Proofs.Chain.Course
import Fieldwork.Proofs.Chain.Replay
import Fieldwork.Proofs.Chain.Run
import Fieldwork.Proofs.Chain.Target
import Fieldwork.Proofs.Condition.Choices
import Fieldwork.Proofs.Condition.Compile
import Fieldwork.Proofs.Condition.Rules
import Fieldwork.Proofs.Confinement
import Fieldwork.Proofs.Decimal
import Fieldwork.Proofs.Documents
import Fieldwork.Proofs.Find
import Fieldwork.Proofs.Json
import Fieldwork.Proofs.Json.Canonical
import Fieldwork.Proofs.Json.Decode
import Fieldwork.Proofs.Json.Text
import Fieldwork.Proofs.Pages
import Fieldwork.Proofs.Plan.Compile
import Fieldwork.Proofs.Plan.Failure
import Fieldwork.Proofs.Record
import Fieldwork.Proofs.Retry
import Fieldwork.Proofs.Session
import Fieldwork.Proofs.Sql.Columns
import Fieldwork.Proofs.Sql.Legible
import Fieldwork.Proofs.Sql.Lexer
import Fieldwork.Proofs.Sql.Lookup
import Fieldwork.Proofs.Sql.Meaning
import Fieldwork.Proofs.Sql.Null
import Fieldwork.Proofs.Sql.Paging
import Fieldwork.Proofs.Sql.Pattern
import Fieldwork.Proofs.Sql.Precedence
import Fieldwork.Proofs.Sql.Structure
import Fieldwork.Proofs.Sql.Written
import Fieldwork.Proofs.Store.Sorting
import Fieldwork.Proofs.Store.Update
import Fieldwork.Record
import Fieldwork.Responder
import Fieldwork.Retry.Policy
import Fieldwork.Retry.Run
import Fieldwork.Session
import Fieldwork.Sql.Expression
import Fieldwork.Sql.Statement
import Fieldwork.Sql.Token
import Fieldwork.Store.Compare
import Fieldwork.Store.Memory
import Fieldwork.Store.Script
import Fieldwork.Store.Select
import Fieldwork.Store.Update
import Fieldwork.Text.Blank
import Fieldwork.Text.CaseTable
import Fieldwork.Text.Cluster
import Fieldwork.Text.ClusterTable
import Fieldwork.Text.Lowercase
import Fieldwork.Text.Range
import Fieldwork.Text.Typing
import Fieldwork.Text.Uuid
import Fieldwork.Translations
import Fieldwork.Proofs.Chain.Assignments
import Fieldwork.Proofs.Sql.Numbering
import Fieldwork.Proofs.Lane.Joint
import Fieldwork.Proofs.Lane.Participants
import Fieldwork.Proofs.Translations
import Fieldwork.Proofs.Sql.Grouping
import Fieldwork.Proofs.Plan.Language
import Fieldwork.Proofs.Sql.Reference
import Fieldwork.Proofs.Store.Transitivity
