import TwinGraph.Alias
import TwinGraph.Clause
import TwinGraph.Condition.Basic
import TwinGraph.Condition.Text
import TwinGraph.Configuration
import TwinGraph.Error
import TwinGraph.Event
import TwinGraph.Json
import TwinGraph.Literal
import TwinGraph.Number.Binary64
import TwinGraph.Number.Shortest
import TwinGraph.Proofs.Alias.Language
import TwinGraph.Proofs.Condition.Calls
import TwinGraph.Proofs.Condition.Equality
import TwinGraph.Proofs.Condition.Kind
import TwinGraph.Proofs.Condition.Lexemes
import TwinGraph.Proofs.Condition.Names
import TwinGraph.Proofs.Condition.Nodes
import TwinGraph.Proofs.Condition.Reference
import TwinGraph.Proofs.Condition.Refusals
import TwinGraph.Proofs.Condition.Rendering
import TwinGraph.Proofs.Condition.Stretches
import TwinGraph.Proofs.Condition.Strings
import TwinGraph.Proofs.Condition.Unambiguous
import TwinGraph.Proofs.Condition.Version
import TwinGraph.Proofs.Configuration
import TwinGraph.Proofs.Json.Integers
import TwinGraph.Proofs.Literal
import TwinGraph.Proofs.Number.Rounding
import TwinGraph.Proofs.Number.Shortest
import TwinGraph.Proofs.Query.Acceptance
import TwinGraph.Proofs.Query.Calls
import TwinGraph.Proofs.Query.Closed
import TwinGraph.Proofs.Query.Demands
import TwinGraph.Proofs.Query.Entries
import TwinGraph.Proofs.Query.Equality
import TwinGraph.Proofs.Query.Grammar
import TwinGraph.Proofs.Query.Items
import TwinGraph.Proofs.Query.Lexemes
import TwinGraph.Proofs.Query.Log
import TwinGraph.Proofs.Query.NormalForm
import TwinGraph.Proofs.Query.Projection
import TwinGraph.Proofs.Query.Refusals
import TwinGraph.Proofs.Query.Reorder
import TwinGraph.Proofs.Query.Run
import TwinGraph.Proofs.Query.Scope
import TwinGraph.Proofs.Query.Selection
import TwinGraph.Proofs.Query.Shape
import TwinGraph.Proofs.Query.Unambiguous
import TwinGraph.Proofs.Session.Announcement
import TwinGraph.Proofs.Session.Answers
import TwinGraph.Proofs.Session.Isolation
import TwinGraph.Proofs.Session.Lineage
import TwinGraph.Proofs.Session.Log
import TwinGraph.Proofs.Session.Reply
import TwinGraph.Proofs.Session.Respelling
import TwinGraph.Proofs.Session.Stored
import TwinGraph.Proofs.Text.Boundary
import TwinGraph.Proofs.Text.Case
import TwinGraph.Proofs.Text.Numeral
import TwinGraph.Proofs.Text.Quoted
import TwinGraph.Proofs.Text.Reading
import TwinGraph.Proofs.Text.Reference
import TwinGraph.Proofs.Traced
import TwinGraph.Proofs.UnknownAlias
import TwinGraph.Proofs.Vocabulary
import TwinGraph.Query
import TwinGraph.Query.Lexemes
import TwinGraph.Session
import TwinGraph.Session.Announcement
import TwinGraph.Session.Footprint
import TwinGraph.Session.Lineage
import TwinGraph.Text.Character
import TwinGraph.Text.Quoted
import TwinGraph.Text.Reference
import TwinGraph.Text.Scan
import TwinGraph.Text.Separated
import TwinGraph.Toml.Calendar
import TwinGraph.Toml.Document
import TwinGraph.Toml.Scalar
import TwinGraph.Toml.Text
import TwinGraph.Toml.Value
import TwinGraph.Vocabulary
