import TextRules.Combinator
import TextRules.CommandLine.Arguments
import TextRules.CommandLine.Command
import TextRules.CommandLine.LogFilter
import TextRules.CommandLine.Manual
import TextRules.CommandLine.Program
import TextRules.Evaluation
import TextRules.Json.Draft
import TextRules.Json.Lexeme
import TextRules.Json.Number
import TextRules.Json.Writer
import TextRules.Log
import TextRules.Main
import TextRules.Numbers
import TextRules.Operand.Expr
import TextRules.Operand.Reader
import TextRules.Operand.Reduction
import TextRules.Registry
import TextRules.Registry.RuleBook
import TextRules.Relation
import TextRules.Rule
import TextRules.Rule.Check
import TextRules.Rule.Reader
import TextRules.Stored.Entry
import TextRules.Stored.Reading
import TextRules.Stored.Rule
import TextRules.Stored.Settings
import TextRules.Text.Alphanumeric
import TextRules.Text.Bisection
import TextRules.Text.Blank
import TextRules.Text.Brackets
import TextRules.Text.CaseRun
import TextRules.Text.Cased
import TextRules.Text.CharSet
import TextRules.Text.Decimal
import TextRules.Text.Hexadecimal
import TextRules.Text.LowerCase
import TextRules.Text.Occurrences
import TextRules.Text.Pattern
import TextRules.Text.Pattern.Bracket
import TextRules.Text.Pattern.ByteRange
import TextRules.Text.Pattern.Cursor
import TextRules.Text.Pattern.Escape
import TextRules.Text.Pattern.Fault
import TextRules.Text.Pattern.Footprint
import TextRules.Text.Pattern.Machine
import TextRules.Text.Pattern.Meaning
import TextRules.Text.Pattern.Place
import TextRules.Text.Pattern.Reader
import TextRules.Text.Pattern.Reading
import TextRules.Text.Pattern.Tree
import TextRules.Text.Printable
import TextRules.Text.Property
import TextRules.Text.Property.Age
import TextRules.Text.Property.Binary
import TextRules.Text.Property.Breaks
import TextRules.Text.Property.CaseFolding
import TextRules.Text.Property.Category
import TextRules.Text.Property.Name
import TextRules.Text.Property.Script
import TextRules.Text.Quoted
import TextRules.Text.Split
import TextRules.Text.Terminal
import TextRules.Token
import TextRules.Value
import TextRules.Proofs.Reduction
import TextRules.Proofs.Shape
import TextRules.Proofs.Evaluation
import TextRules.Proofs.Digits
import TextRules.Proofs.Reading
import TextRules.Proofs.Checking
import TextRules.Proofs.Cutting
import TextRules.Proofs.RuleBook
import TextRules.Proofs.Pieces
import TextRules.Proofs.Arithmetic
import TextRules.Proofs.Numbers
import TextRules.Proofs.Occurrences
import TextRules.Proofs.Words
import TextRules.Proofs.Exactness
import TextRules.Proofs.LowerCase
import TextRules.Proofs.Writing
import TextRules.Proofs.RoundTrip
import TextRules.Proofs.Requests
import TextRules.Proofs.Isolation
import TextRules.Proofs.Batches
import TextRules.Proofs.HeldRules
import TextRules.Proofs.JsonLexemes
import TextRules.Proofs.JsonDocuments
import TextRules.Proofs.StoredForms
import TextRules.Proofs.BatchCommand
import TextRules.Proofs.ArgumentCounts
import TextRules.Proofs.Fillers
import TextRules.Proofs.Balances
import TextRules.Proofs.Replacement
import TextRules.Proofs.WordScan
import TextRules.Proofs.LineEnds
import TextRules.Proofs.BytePositions
import TextRules.Proofs.TokenTexts
import TextRules.Proofs.Decoration
import TextRules.Proofs.DigitRuns
import TextRules.Proofs.Average
import TextRules.Proofs.Mean
import TextRules.Proofs.Rejection
import TextRules.Proofs.AgreeingSubjects
import TextRules.Proofs.CombinatorLaws
import TextRules.Proofs.LeafBounds
import TextRules.Proofs.ArgumentOrder
import TextRules.Proofs.BracketGrammar
import TextRules.Proofs.Folding
import TextRules.Proofs.Changes
import TextRules.Proofs.AuditTrail
import TextRules.Proofs.CharSets
