import Docbase.Binary64.Arithmetic
import Docbase.Binary64.Basic
import Docbase.Binary64.Power
import Docbase.Binary64.Scientific
import Docbase.Binary64.Shortest
import Docbase.Binary64.Text
import Docbase.Database
import Docbase.Database.Error
import Docbase.MapReduce.Batch
import Docbase.MapReduce.Job
import Docbase.MapReduce.Output
import Docbase.MapReduce.Registry
import Docbase.Pattern.Automaton
import Docbase.Pattern.ByteSequence
import Docbase.Pattern.CharClass
import Docbase.Pattern.Matcher
import Docbase.Pattern.Parser
import Docbase.Pattern.Syntax
import Docbase.Proofs.Binary64.Decimal
import Docbase.Proofs.Binary64.Exact
import Docbase.Proofs.Binary64.Integer
import Docbase.Proofs.Binary64.Minimal
import Docbase.Proofs.Binary64.Rounding
import Docbase.Proofs.Binary64.Scientific
import Docbase.Proofs.Binary64.Shortest
import Docbase.Proofs.Binary64.Truncation
import Docbase.Proofs.Database.Batching
import Docbase.Proofs.Database.Course
import Docbase.Proofs.Database.Duplicates
import Docbase.Proofs.Database.Effect
import Docbase.Proofs.Database.Failure
import Docbase.Proofs.Database.IdSearch
import Docbase.Proofs.Database.InlineOrder
import Docbase.Proofs.Database.LaterEmissions
import Docbase.Proofs.Database.OnePerKey
import Docbase.Proofs.Database.Selection
import Docbase.Proofs.Database.Steps
import Docbase.Proofs.MapReduce.Batching
import Docbase.Proofs.MapReduce.CallText
import Docbase.Proofs.MapReduce.Calls
import Docbase.Proofs.MapReduce.Comparison
import Docbase.Proofs.MapReduce.Cutting
import Docbase.Proofs.MapReduce.Emission
import Docbase.Proofs.MapReduce.Emitting
import Docbase.Proofs.MapReduce.Filing
import Docbase.Proofs.MapReduce.Grouping
import Docbase.Proofs.MapReduce.Orderly
import Docbase.Proofs.MapReduce.Partition
import Docbase.Proofs.MapReduce.Phases
import Docbase.Proofs.MapReduce.PlainKeys
import Docbase.Proofs.MapReduce.Registry
import Docbase.Proofs.MapReduce.Replay
import Docbase.Proofs.MapReduce.Rounds
import Docbase.Proofs.MapReduce.Sheet
import Docbase.Proofs.Query.Acceptance
import Docbase.Proofs.Query.Arrangement
import Docbase.Proofs.Query.Broadcast
import Docbase.Proofs.Query.Comment
import Docbase.Proofs.Query.Congruence
import Docbase.Proofs.Query.Conjunction
import Docbase.Proofs.Query.Derived
import Docbase.Proofs.Query.Entry
import Docbase.Proofs.Query.Evaluation
import Docbase.Proofs.Query.Grammar
import Docbase.Proofs.Query.Meaning
import Docbase.Proofs.Query.Operand
import Docbase.Proofs.Query.Part
import Docbase.Proofs.Query.Range
import Docbase.Proofs.Query.Remainder
import Docbase.Proofs.Query.Safety
import Docbase.Proofs.Query.Sorting
import Docbase.Proofs.Refusal
import Docbase.Proofs.Script.Assignment
import Docbase.Proofs.Script.Border
import Docbase.Proofs.Script.CallStatement
import Docbase.Proofs.Script.Coercion
import Docbase.Proofs.Script.Comparison
import Docbase.Proofs.Script.Construction
import Docbase.Proofs.Script.Content
import Docbase.Proofs.Script.Detection
import Docbase.Proofs.Script.DocumentAtHand
import Docbase.Proofs.Script.DocumentLookup
import Docbase.Proofs.Script.Equality
import Docbase.Proofs.Script.Evaluation
import Docbase.Proofs.Script.FieldNames
import Docbase.Proofs.Script.Fields
import Docbase.Proofs.Script.Forms
import Docbase.Proofs.Script.FreshScope
import Docbase.Proofs.Script.Guard
import Docbase.Proofs.Script.GuardEvaluation
import Docbase.Proofs.Script.GuardLibrary
import Docbase.Proofs.Script.GuardScope
import Docbase.Proofs.Script.Heap
import Docbase.Proofs.Script.Lexing
import Docbase.Proofs.Script.Links
import Docbase.Proofs.Script.LiteralMeaning
import Docbase.Proofs.Script.LiteralSyntax
import Docbase.Proofs.Script.Locals
import Docbase.Proofs.Script.Meaning
import Docbase.Proofs.Script.Metatables
import Docbase.Proofs.Script.NumberText
import Docbase.Proofs.Script.Numeral
import Docbase.Proofs.Script.Ordering
import Docbase.Proofs.Script.Parsing
import Docbase.Proofs.Script.Printable
import Docbase.Proofs.Script.Returning
import Docbase.Proofs.Script.RoundTrip
import Docbase.Proofs.Script.Scanning
import Docbase.Proofs.Script.Slots
import Docbase.Proofs.Script.Table
import Docbase.Proofs.Script.Turns
import Docbase.Proofs.Script.WithDocument
import Docbase.Proofs.Store.Index
import Docbase.Proofs.Store.ListStore
import Docbase.Proofs.Store.Run
import Docbase.Proofs.Text.ByteOrder
import Docbase.Proofs.Text.Hex
import Docbase.Proofs.Text.Utf8
import Docbase.Proofs.Value.Bson
import Docbase.Proofs.Value.Congruence
import Docbase.Proofs.Value.Edits
import Docbase.Proofs.Value.Embedding
import Docbase.Proofs.Value.Key
import Docbase.Proofs.Value.Number
import Docbase.Proofs.Value.Options
import Docbase.Proofs.Value.Order
import Docbase.Proofs.Value.Path
import Docbase.Proofs.Value.Resolution
import Docbase.Proofs.Value.Shape
import Docbase.Proofs.Value.Spelling
import Docbase.Proofs.Value.Writing
import Docbase.Query.Compile
import Docbase.Query.Error
import Docbase.Query.Filter
import Docbase.Query.Match
import Docbase.Query.Sort
import Docbase.Script.Arithmetic
import Docbase.Script.Assigned
import Docbase.Script.Captures
import Docbase.Script.Check
import Docbase.Script.Datum
import Docbase.Script.Error
import Docbase.Script.Evaluate
import Docbase.Script.Heap
import Docbase.Script.Lexer
import Docbase.Script.Library
import Docbase.Script.Library.Argument
import Docbase.Script.Library.Basic
import Docbase.Script.Library.Numeric
import Docbase.Script.Library.Sequence
import Docbase.Script.Library.Text
import Docbase.Script.Literal
import Docbase.Script.Materialize
import Docbase.Script.Numeral
import Docbase.Script.Operation
import Docbase.Script.Parser
import Docbase.Script.Prelude
import Docbase.Script.Progression
import Docbase.Script.Scope
import Docbase.Script.Slots
import Docbase.Script.Source
import Docbase.Script.Syntax
import Docbase.Script.Table
import Docbase.Script.Token
import Docbase.Script.Trace
import Docbase.Settings
import Docbase.Store
import Docbase.Text.Base64
import Docbase.Text.Calendar
import Docbase.Text.Hex
import Docbase.Text.Json
import Docbase.Text.Quoted
import Docbase.Text.Utf8
import Docbase.Unicode.Age
import Docbase.Unicode.Category
import Docbase.Unicode.CharSet
import Docbase.Unicode.Derived
import Docbase.Unicode.Folding
import Docbase.Unicode.Later
import Docbase.Unicode.Named
import Docbase.Unicode.Property
import Docbase.Unicode.Script
import Docbase.Unicode.ScriptExtension
import Docbase.Unicode.Segmentation
import Docbase.Value.Basic
import Docbase.Value.Bson
import Docbase.Value.Display
import Docbase.Value.Document
import Docbase.Value.Key
import Docbase.Value.Order
import Docbase.Value.Path
