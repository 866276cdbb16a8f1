import GatewayQuery.Json.Document
import GatewayQuery.Record.Derive
import GatewayQuery.Request.Build
import GatewayQuery.Schema.Snapshot
import GatewayQuery.Shape.Json
import GatewayQuery.Shape.Printer
import GatewayQuery.Proofs.Select.Grammar
import GatewayQuery.Proofs.Select.Recognition
import GatewayQuery.Proofs.Keyed
import GatewayQuery.Proofs.Request.Filters
import GatewayQuery.Proofs.Select.Cleaning
import GatewayQuery.Proofs.Select.Rendering
import GatewayQuery.Proofs.Resolution.Choice
import GatewayQuery.Proofs.Resolution.Soundness
import GatewayQuery.Proofs.Resolution.Suggestions
import GatewayQuery.Proofs.Shape.Writes
import GatewayQuery.Proofs.Shape.Frame
import GatewayQuery.Proofs.Shape.Visibility
import GatewayQuery.Proofs.Resolution.Places
import GatewayQuery.Proofs.Select.Fields
import GatewayQuery.Proofs.Shape.Alike
import GatewayQuery.Proofs.Shape.Parallel
import GatewayQuery.Proofs.Shape.Newcomer
import GatewayQuery.Proofs.Shape.Reordering
import GatewayQuery.Proofs.Shape.Loosening
import GatewayQuery.Proofs.Json.Reading
import GatewayQuery.Proofs.Schema.Snapshot
import GatewayQuery.Proofs.Select.Longest
import GatewayQuery.Proofs.Select.Layout
import GatewayQuery.Proofs.Select.Lookahead
import GatewayQuery.Proofs.Select.Refusals
import GatewayQuery.Proofs.Select.Viability
import GatewayQuery.Proofs.Select.Whitespace
import GatewayQuery.Proofs.Select.Diagnosis
import GatewayQuery.Proofs.Select.Fusion
import GatewayQuery.Proofs.Request.Transport
import GatewayQuery.Proofs.Json.Document
import GatewayQuery.Proofs.Shape.Reading
import GatewayQuery.Proofs.Shape.History
import GatewayQuery.Proofs.Shape.Distinct
import GatewayQuery.Proofs.Request.Outcome
import GatewayQuery.Proofs.Resolution.Declared
import GatewayQuery.Proofs.Schema.Consistency
import GatewayQuery.Proofs.Resolution.Hints
import GatewayQuery.Proofs.Resolution.Owners
import GatewayQuery.Proofs.Resolution.Nullability
import GatewayQuery.Proofs.Shape.Repetition
import GatewayQuery.Proofs.Shape.Selection
import GatewayQuery.Proofs.Shape.Expansion
import GatewayQuery.Proofs.Shape.Places
import GatewayQuery.Proofs.Request.Lists
import GatewayQuery.Proofs.Request.Paging
import GatewayQuery.Proofs.Request.Rows
import GatewayQuery.Proofs.Request.Headers
import GatewayQuery.Proofs.Request.Address
import GatewayQuery.Proofs.Record.FieldType
import GatewayQuery.Proofs.Record.Derive
import GatewayQuery.Proofs.Schema.FirstFault
import GatewayQuery.Proofs.Schema.Tables
import GatewayQuery.Proofs.Select.Coverage
import GatewayQuery.Proofs.Schema.ArrayNames
import GatewayQuery.Proofs.Shape.Monoid
import GatewayQuery.Proofs.Select.Movement
