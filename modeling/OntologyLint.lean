import OntologyLint.Check.Basic
import OntologyLint.Check.Cardinality
import OntologyLint.Check.DatatypeRange
import OntologyLint.Check.Disjointness
import OntologyLint.Check.DomainRange
import OntologyLint.Check.Examine
import OntologyLint.Datatype.Calendar
import OntologyLint.Datatype.Conformance
import OntologyLint.Datatype.Integer
import OntologyLint.Datatype.Known
import OntologyLint.Datatype.LexicalSpace
import OntologyLint.Datatype.Notation
import OntologyLint.Document.Format
import OntologyLint.Document.Lines
import OntologyLint.Document.Loading
import OntologyLint.Document.Name
import OntologyLint.Document.Quotation
import OntologyLint.Document.RdfXml.Attributes
import OntologyLint.Document.RdfXml.Meaning
import OntologyLint.Document.Reading
import OntologyLint.Document.Turtle.Grammar
import OntologyLint.Document.Turtle.LocalName
import OntologyLint.Document.Turtle.Meaning
import OntologyLint.Document.Turtle.Tree
import OntologyLint.Files.Disk
import OntologyLint.Files.Path
import OntologyLint.Graph.Basic
import OntologyLint.Graph.Collection
import OntologyLint.Hierarchy.Closure
import OntologyLint.Hierarchy.TypeCache
import OntologyLint.Iri.Characters
import OntologyLint.Iri.Host
import OntologyLint.Iri.Reference
import OntologyLint.Json.Basic
import OntologyLint.Json.Parser
import OntologyLint.Json.Printer
import OntologyLint.Language.Tag
import OntologyLint.Main
import OntologyLint.Program.Run
import OntologyLint.Proofs.Check.Cardinality
import OntologyLint.Proofs.Check.DatatypeRange
import OntologyLint.Proofs.Check.Disjointness
import OntologyLint.Proofs.Check.DomainRange
import OntologyLint.Proofs.Check.Order
import OntologyLint.Proofs.Check.Relabeling
import OntologyLint.Proofs.Datatype.Calendar
import OntologyLint.Proofs.Datatype.Conformance
import OntologyLint.Proofs.Datatype.Derivation
import OntologyLint.Proofs.Datatype.Inclusion
import OntologyLint.Proofs.Datatype.Integer
import OntologyLint.Proofs.Datatype.Notation
import OntologyLint.Proofs.Datatype.StandardDates
import OntologyLint.Proofs.Datatype.TimeZone
import OntologyLint.Proofs.Determined
import OntologyLint.Proofs.Document.Loading
import OntologyLint.Proofs.Files.Path
import OntologyLint.Proofs.Graph.Agreement
import OntologyLint.Proofs.Graph.Chain
import OntologyLint.Proofs.Graph.Collection
import OntologyLint.Proofs.Graph.Facts
import OntologyLint.Proofs.Graph.Order
import OntologyLint.Proofs.Graph.Rearrangement
import OntologyLint.Proofs.Graph.Relabeling
import OntologyLint.Proofs.Graph.Rounds
import OntologyLint.Proofs.Graph.Sameness
import OntologyLint.Proofs.Graph.Union
import OntologyLint.Proofs.Graph.Walk
import OntologyLint.Proofs.Hierarchy.Answers
import OntologyLint.Proofs.Hierarchy.Instances
import OntologyLint.Proofs.Hierarchy.Lookups
import OntologyLint.Proofs.Hierarchy.Memory
import OntologyLint.Proofs.Hierarchy.Search
import OntologyLint.Proofs.Multiplicity
import OntologyLint.Proofs.Program.Run
import OntologyLint.Proofs.Schema.Collections
import OntologyLint.Proofs.Schema.Count
import OntologyLint.Proofs.Schema.Declarations
import OntologyLint.Proofs.Schema.Disjointness
import OntologyLint.Proofs.Schema.Extraction
import OntologyLint.Proofs.Schema.Properties
import OntologyLint.Proofs.Schema.Reading
import OntologyLint.Proofs.Schema.Rearrangement
import OntologyLint.Proofs.Schema.Relabeling
import OntologyLint.Proofs.Schema.Restrictions
import OntologyLint.Proofs.Settings.ConfigFile
import OntologyLint.Proofs.Settings.Precedence
import OntologyLint.Proofs.SortedSet
import OntologyLint.Proofs.Term.Display
import OntologyLint.Proofs.Term.Relabeling
import OntologyLint.Proofs.Text.Blank
import OntologyLint.Proofs.Text.Bytes
import OntologyLint.Proofs.Text.Fields
import OntologyLint.Proofs.Text.Grammar
import OntologyLint.Proofs.Text.Numerals
import OntologyLint.Proofs.Text.Quoted
import OntologyLint.Proofs.Validation.Arrangement
import OntologyLint.Proofs.Validation.Constraints
import OntologyLint.Proofs.Validation.Evaluation
import OntologyLint.Proofs.Validation.Findings
import OntologyLint.Proofs.Validation.Hierarchy
import OntologyLint.Proofs.Validation.Independence
import OntologyLint.Proofs.Validation.Inertness
import OntologyLint.Proofs.Validation.Lines
import OntologyLint.Proofs.Validation.Lookups
import OntologyLint.Proofs.Validation.OrdinaryTriple
import OntologyLint.Proofs.Validation.Rearrangement
import OntologyLint.Proofs.Validation.Relabeling
import OntologyLint.Proofs.Validation.Schedules
import OntologyLint.Proofs.Validation.TextReport
import OntologyLint.Proofs.Violation.Display
import OntologyLint.Proofs.Violation.Json
import OntologyLint.Proofs.Violation.Keys
import OntologyLint.Proofs.Violation.Order
import OntologyLint.Proofs.Violation.Sections
import OntologyLint.Proofs.Violation.Set
import OntologyLint.Remainder
import OntologyLint.Schema.Basic
import OntologyLint.Schema.Count
import OntologyLint.Schema.Index
import OntologyLint.Settings.Arguments
import OntologyLint.Settings.Basic
import OntologyLint.Settings.CommandLine
import OntologyLint.Settings.ConfigFile
import OntologyLint.Settings.Logging
import OntologyLint.SortedSet.Basic
import OntologyLint.Term.Basic
import OntologyLint.Term.Display
import OntologyLint.Term.Json
import OntologyLint.Term.Label
import OntologyLint.Text.Blank
import OntologyLint.Text.Digits
import OntologyLint.Text.Fields
import OntologyLint.Text.Quoted
import OntologyLint.Text.Reading
import OntologyLint.Text.Visible
import OntologyLint.Validation.JsonReport
import OntologyLint.Validation.Report
import OntologyLint.Validation.ReportFormat
import OntologyLint.Validation.Run
import OntologyLint.Validation.Schedule
import OntologyLint.Validation.TextReport
import OntologyLint.Violation.Basic
import OntologyLint.Violation.Json
import OntologyLint.Violation.Set
import OntologyLint.Vocabulary
import OntologyLint.Xml.Entity
import OntologyLint.Xml.Namespace
import OntologyLint.Xml.Parser
import OntologyLint.Xml.Tree
import OntologyLint.Yaml.Basic
import OntologyLint.Yaml.BlockScalar
import OntologyLint.Yaml.Character
import OntologyLint.Yaml.Cursor
import OntologyLint.Yaml.Document
import OntologyLint.Yaml.Gap
import OntologyLint.Yaml.Layout
import OntologyLint.Yaml.Node
import OntologyLint.Yaml.PlainScalar
import OntologyLint.Yaml.QuotedScalar
import OntologyLint.Yaml.Tag
import OntologyLint.Yaml.Token
