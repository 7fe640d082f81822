import LiveTex.CharSet.Basic
import LiveTex.CharSet.Bytes
import LiveTex.CharSet.Table
import LiveTex.CommandLine
import LiveTex.Decimal.Binary
import LiveTex.Decimal.Digits
import LiveTex.Decimal.Layout
import LiveTex.Decimal.Reading
import LiveTex.Decimal.Shortest
import LiveTex.Document.Basic
import LiveTex.Document.Output
import LiveTex.Formula.Basic
import LiveTex.Formula.CubeRoot
import LiveTex.Formula.Error
import LiveTex.Formula.Expr
import LiveTex.Formula.Lexing
import LiveTex.Formula.Operation
import LiveTex.Formula.Parsing
import LiveTex.Formula.Token
import LiveTex.Json.Reading
import LiveTex.Json.Value
import LiveTex.Json.Writing
import LiveTex.Main
import LiveTex.Name.Braces
import LiveTex.Name.Canonical
import LiveTex.Name.Color
import LiveTex.Name.Substitution
import LiveTex.Name.Zones
import LiveTex.Options
import LiveTex.Options.Reading
import LiveTex.Pattern.Brackets
import LiveTex.Pattern.Classes
import LiveTex.Pattern.Escapes
import LiveTex.Pattern.Fault
import LiveTex.Pattern.Flags
import LiveTex.Pattern.Occurrences
import LiveTex.Pattern.Program
import LiveTex.Pattern.Reading
import LiveTex.Pattern.Search
import LiveTex.Pattern.Size
import LiveTex.Pattern.Syntax
import LiveTex.Property.Age
import LiveTex.Property.Binary
import LiveTex.Property.CaseChange
import LiveTex.Property.Category
import LiveTex.Property.Contributory
import LiveTex.Property.Diacritic
import LiveTex.Property.Emoji
import LiveTex.Property.GraphemeBreak
import LiveTex.Property.Ideograph
import LiveTex.Property.Name
import LiveTex.Property.Punctuation
import LiveTex.Property.Query
import LiveTex.Property.Script
import LiveTex.Property.SentenceBreak
import LiveTex.Property.Technical
import LiveTex.Property.WordBreak
import LiveTex.Repl
import LiveTex.Sheet.Action
import LiveTex.Sheet.Display
import LiveTex.Sheet.Evaluation
import LiveTex.Sheet.Ident
import LiveTex.Sheet.Session
import LiveTex.Sheet.Settling
import LiveTex.Sheet.Store
import LiveTex.Sheet.World
import LiveTex.Span.Delimiters
import LiveTex.Span.Dollar
import LiveTex.Span.Node
import LiveTex.Span.Occurrence
import LiveTex.Span.Scan
import LiveTex.Statement
import LiveTex.Text.Basic
import LiveTex.Text.Blank
import LiveTex.Text.Case
import LiveTex.Text.Hexadecimal
import LiveTex.Text.Hidden
import LiveTex.Text.Quoted
import LiveTex.Text.Word
import LiveTex.Proofs.Formula.Operands
import LiveTex.Proofs.Formula.Reparsing
import LiveTex.Proofs.Formula.Symbols
import LiveTex.Proofs.Sheet.Direct
import LiveTex.Proofs.Sheet.Fanout
import LiveTex.Proofs.Sheet.FirstFailure
import LiveTex.Proofs.Sheet.Freshness
import LiveTex.Proofs.Sheet.Naming
import LiveTex.Proofs.Sheet.Rejection
import LiveTex.Proofs.Sheet.Run
import LiveTex.Proofs.Sheet.Writes
import LiveTex.Proofs.Sheet.Opening
import LiveTex.Proofs.Sheet.Disposal
import LiveTex.Proofs.Sheet.Enrolment
import LiveTex.Proofs.Sheet.Registry
import LiveTex.Proofs.Sheet.Screen
import LiveTex.Proofs.Sheet.Steps
import LiveTex.Proofs.Sheet.Numbering
import LiveTex.Proofs.Sheet.Aliases
import LiveTex.Proofs.Name.Standing
import LiveTex.Proofs.Name.Weaving
import LiveTex.Proofs.Sheet.NewName
import LiveTex.Proofs.Repl.Notices
import LiveTex.Proofs.Repl.Transcript
import LiveTex.Proofs.Span.Bytewise
import LiveTex.Proofs.Span.Isolation
import LiveTex.Proofs.Sheet.Frame
import LiveTex.Proofs.Name.Scripted
import LiveTex.Proofs.Name.WholeScript
import LiveTex.Proofs.Name.Idempotence
import LiveTex.Proofs.Name.Conservation
import LiveTex.Proofs.Name.Places
import LiveTex.Proofs.Span.Leftmost
import LiveTex.Proofs.Formula.Limits
import LiveTex.Proofs.Formula.Answers
import LiveTex.Proofs.Statement.Chains
import LiveTex.Proofs.Formula.Calls
import LiveTex.Proofs.Formula.Layout
import LiveTex.Proofs.Sheet.Display
import LiveTex.Proofs.Span.Emptiness
import LiveTex.Proofs.Sheet.Keys
