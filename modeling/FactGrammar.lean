import FactGrammar.Academic.Degree
import FactGrammar.Academic.Department
import FactGrammar.Academic.Extraction
import FactGrammar.Academic.PersonName
import FactGrammar.Academic.Speciality
import FactGrammar.Academic.Thesis
import FactGrammar.CommandLine.Arguments
import FactGrammar.CommandLine.Run
import FactGrammar.Config
import FactGrammar.Derive.FactOption
import FactGrammar.Derive.Implementation
import FactGrammar.Derive.Item
import FactGrammar.Derive.Lexeme
import FactGrammar.Derive.Plan
import FactGrammar.Derive.Tree
import FactGrammar.Derive.TreeReader
import FactGrammar.Derive.TypeExpr
import FactGrammar.Facts.Collection
import FactGrammar.Facts.Json
import FactGrammar.Facts.Xml
import FactGrammar.Lexicon.Basic
import FactGrammar.Lexicon.Builtin
import FactGrammar.Lexicon.Document
import FactGrammar.Main
import FactGrammar.Matching.Engine
import FactGrammar.Matching.Interpretation
import FactGrammar.Matching.Match
import FactGrammar.Matching.State
import FactGrammar.Matching.Tape
import FactGrammar.Pattern.Grammar
import FactGrammar.Pattern.Predicate
import FactGrammar.Pattern.Rule
import FactGrammar.Reader
import FactGrammar.Record.Schema
import FactGrammar.Record.Value
import FactGrammar.Span
import FactGrammar.Text.Cased
import FactGrammar.Text.Classes
import FactGrammar.Text.Identifier
import FactGrammar.Text.Lowercase
import FactGrammar.Text.Numeral
import FactGrammar.Text.TextSet
import FactGrammar.Text.Uppercase
import FactGrammar.Token.Basic
import FactGrammar.Token.Scan
import FactGrammar.Toml.Document
import FactGrammar.Toml.Scalar
import FactGrammar.Toml.Statement
import FactGrammar.Toml.Value
import FactGrammar.Proofs.Matching.Forest
import FactGrammar.Proofs.Matching.Recognizer
import FactGrammar.Proofs.Matching.Run
import FactGrammar.Proofs.Matching.Refinement
import FactGrammar.Proofs.Matching.Nesting
import FactGrammar.Proofs.Matching.Termination
import FactGrammar.Proofs.Matching.Search
import FactGrammar.Proofs.Matching.Unfolding
import FactGrammar.Proofs.Interpretation.Forest
import FactGrammar.Proofs.Matching.TokenRun
import FactGrammar.Proofs.Academic.Phrases
import FactGrammar.Proofs.Academic.Departments
import FactGrammar.Proofs.Academic.Names
import FactGrammar.Proofs.Academic.Specialities
import FactGrammar.Proofs.Academic.Degrees
import FactGrammar.Proofs.Academic.Theses
import FactGrammar.Proofs.Academic.Decoding
import FactGrammar.Proofs.Academic.Extraction
import FactGrammar.Proofs.Matching.Locality
import FactGrammar.Proofs.Matching.Erasure
import FactGrammar.Proofs.Matching.Extension
import FactGrammar.Proofs.Matching.Spacing
import FactGrammar.Proofs.Academic.Spacing
import FactGrammar.Proofs.Interpretation.Resolution
import FactGrammar.Proofs.Reading
import FactGrammar.Proofs.Facts.Markup
import FactGrammar.Proofs.Facts.Document
import FactGrammar.Proofs.Lexicon.Lookup
import FactGrammar.Proofs.Lexicon.Merging
import FactGrammar.Proofs.Token.Coverage
import FactGrammar.Proofs.Matching.Arrangement
import FactGrammar.Proofs.Token.Joining
import FactGrammar.Proofs.Token.Places
import FactGrammar.Proofs.Token.Division
import FactGrammar.Proofs.Academic.Sources
import FactGrammar.Proofs.Derive.Code
import FactGrammar.Proofs.Derive.Readback
import FactGrammar.Proofs.Derive.Options
import FactGrammar.Proofs.Derive.Agreement
import FactGrammar.Proofs.Academic.Announcement
import FactGrammar.Proofs.Academic.Recognition
import FactGrammar.Proofs.Academic.Sentences
import FactGrammar.Proofs.Academic.FirstNames
import FactGrammar.Proofs.Token.Runs
import FactGrammar.Proofs.Token.Recutting
import FactGrammar.Proofs.Academic.Quotations
import FactGrammar.Proofs.Interpretation.Conformance
import FactGrammar.Proofs.Outcome
import FactGrammar.Proofs.Record.Shape
import FactGrammar.Proofs.Academic.Shapes
import FactGrammar.Proofs.Derive.Defects
import FactGrammar.Proofs.Text.ByteOrder
import FactGrammar.Proofs.Pattern.References
import FactGrammar.Proofs.Matching.Algebra
import FactGrammar.Proofs.Matching.Counting
import FactGrammar.Proofs.Matching.Connectives
import FactGrammar.Proofs.Pattern.Ranges
import FactGrammar.Proofs.Facts.Additions
import FactGrammar.Proofs.Locations
