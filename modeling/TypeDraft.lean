import TypeDraft.Calendar
import TypeDraft.CommandLine.Arguments
import TypeDraft.CommandLine.Command
import TypeDraft.CommandLine.Run
import TypeDraft.Csv
import TypeDraft.Demo
import TypeDraft.Files
import TypeDraft.Generation
import TypeDraft.GraphQL
import TypeDraft.Input.Detection
import TypeDraft.Input.Format
import TypeDraft.Input.Parse
import TypeDraft.Json.Decode
import TypeDraft.Json.Encode
import TypeDraft.Json.Quoted
import TypeDraft.Json.Repair
import TypeDraft.Json5.Decode
import TypeDraft.Json5.Identifier
import TypeDraft.JsonLines
import TypeDraft.JsonSchema
import TypeDraft.Main
import TypeDraft.Name.Fresh
import TypeDraft.Name.Word
import TypeDraft.Number.Decimal
import TypeDraft.Number.Double
import TypeDraft.Number.Numeral
import TypeDraft.Number.Shortest
import TypeDraft.Output.Draft
import TypeDraft.Output.DraftError
import TypeDraft.Output.Form
import TypeDraft.Output.Format
import TypeDraft.Output.Hoisted
import TypeDraft.Output.Options
import TypeDraft.Output.Registry
import TypeDraft.Profile
import TypeDraft.Proofs.CommandLine.Generate
import TypeDraft.Proofs.CommandLine.Settings
import TypeDraft.Proofs.Csv.Header
import TypeDraft.Proofs.Csv.Tables
import TypeDraft.Proofs.Except
import TypeDraft.Proofs.Files
import TypeDraft.Proofs.FirstSeen
import TypeDraft.Proofs.Generation
import TypeDraft.Proofs.GraphQL.Clashes
import TypeDraft.Proofs.GraphQL.Reached
import TypeDraft.Proofs.Input.Clauses
import TypeDraft.Proofs.Input.Detection
import TypeDraft.Proofs.Input.FailingLine
import TypeDraft.Proofs.Input.Fallback
import TypeDraft.Proofs.Input.Lines
import TypeDraft.Proofs.Input.Outcome
import TypeDraft.Proofs.Input.Unlabelled
import TypeDraft.Proofs.Json.Atoms
import TypeDraft.Proofs.Json.Brackets
import TypeDraft.Proofs.Json.Encoding
import TypeDraft.Proofs.Json.Harmless
import TypeDraft.Proofs.Json.Lexemes
import TypeDraft.Proofs.Json.Literals
import TypeDraft.Proofs.Json.Loose
import TypeDraft.Proofs.Json.Mending
import TypeDraft.Proofs.Json.Passes
import TypeDraft.Proofs.Json.Quoted
import TypeDraft.Proofs.Json.Reading
import TypeDraft.Proofs.Json.Records
import TypeDraft.Proofs.Json.Requoting
import TypeDraft.Proofs.Json.Rules
import TypeDraft.Proofs.Json.Words
import TypeDraft.Proofs.Json.Writing
import TypeDraft.Proofs.Json5.Agreement
import TypeDraft.Proofs.JsonSchema.Validation
import TypeDraft.Proofs.Name.Fresh
import TypeDraft.Proofs.Name.Origin
import TypeDraft.Proofs.Name.Singular
import TypeDraft.Proofs.Name.Word
import TypeDraft.Proofs.Number.Negation
import TypeDraft.Proofs.Output.Hoisted
import TypeDraft.Proofs.Profile
import TypeDraft.Proofs.Schema.Contained
import TypeDraft.Proofs.Schema.Correspondence
import TypeDraft.Proofs.Schema.Forms
import TypeDraft.Proofs.Schema.Growth
import TypeDraft.Proofs.Schema.IsoText
import TypeDraft.Proofs.Schema.Merge
import TypeDraft.Proofs.Schema.Nesting
import TypeDraft.Proofs.Schema.Paths
import TypeDraft.Proofs.Schema.Pattern
import TypeDraft.Proofs.Schema.Places
import TypeDraft.Proofs.Schema.Reordering
import TypeDraft.Proofs.Schema.Repetition
import TypeDraft.Proofs.Schema.Rows
import TypeDraft.Proofs.Schema.Uniform
import TypeDraft.Proofs.Shape.Alternatives
import TypeDraft.Proofs.Shape.Values
import TypeDraft.Proofs.Terminal.Control
import TypeDraft.Proofs.Text.Ascii
import TypeDraft.Proofs.Text.Trim
import TypeDraft.Proofs.TypeScript.Acceptance
import TypeDraft.Proofs.TypeScript.Advanced.Closure
import TypeDraft.Proofs.TypeScript.Advanced.Emission
import TypeDraft.Proofs.TypeScript.Advanced.Enumerations
import TypeDraft.Proofs.TypeScript.Advanced.Fields
import TypeDraft.Proofs.TypeScript.Advanced.Hoisting
import TypeDraft.Proofs.TypeScript.Advanced.Naming
import TypeDraft.Proofs.TypeScript.Advanced.Soundness
import TypeDraft.Proofs.TypeScript.Advanced.Success
import TypeDraft.Proofs.TypeScript.Advanced.Switches
import TypeDraft.Proofs.TypeScript.Basic.Acceptance
import TypeDraft.Proofs.TypeScript.Basic.Counting
import TypeDraft.Proofs.TypeScript.Basic.Drafting
import TypeDraft.Proofs.TypeScript.Basic.Emission
import TypeDraft.Proofs.TypeScript.Basic.Layers
import TypeDraft.Proofs.TypeScript.Basic.Mentions
import TypeDraft.Proofs.TypeScript.Basic.Modules
import TypeDraft.Proofs.TypeScript.Basic.Order
import TypeDraft.Proofs.TypeScript.Basic.Parts
import TypeDraft.Proofs.TypeScript.Basic.Places
import TypeDraft.Proofs.TypeScript.Basic.Reading
import TypeDraft.Proofs.TypeScript.Basic.Soundness
import TypeDraft.Proofs.TypeScript.Basic.Unions
import TypeDraft.Proofs.TypeScript.Basic.Walks
import TypeDraft.Proofs.TypeScript.Declarations
import TypeDraft.Proofs.TypeScript.ItemNames
import TypeDraft.Proofs.TypeScript.Keys
import TypeDraft.Proofs.TypeScript.Modules
import TypeDraft.Proofs.TypeScript.Spelling
import TypeDraft.Proofs.TypeScript.Tokens
import TypeDraft.Proofs.TypeScript.Types
import TypeDraft.Proofs.TypeScript.Written
import TypeDraft.Proofs.Value.Agreement
import TypeDraft.Proofs.Value.Fields
import TypeDraft.Proofs.Value.Normal
import TypeDraft.Proofs.Value.Trees
import TypeDraft.Proofs.Yaml.Agreement
import TypeDraft.Proofs.Yaml.Blocks
import TypeDraft.Proofs.Yaml.Cursor
import TypeDraft.Proofs.Yaml.Graph
import TypeDraft.Proofs.Yaml.Lines
import TypeDraft.Proofs.Yaml.Loading
import TypeDraft.Proofs.Yaml.Mappings
import TypeDraft.Proofs.Yaml.Nodes
import TypeDraft.Proofs.Yaml.Numbers
import TypeDraft.Proofs.Yaml.Plain
import TypeDraft.Proofs.Yaml.Quoted
import TypeDraft.Proofs.Yaml.Scanning
import TypeDraft.Proofs.Yaml.Source
import TypeDraft.Proofs.Yaml.Strings
import TypeDraft.Proofs.Yaml.Tokens
import TypeDraft.Proofs.Yaml.Values
import TypeDraft.Proofs.Yaml.Words
import TypeDraft.Proofs.Yaml.Writing
import TypeDraft.Proofs.Zod.Outlines
import TypeDraft.Schema.Basic
import TypeDraft.Schema.Merge
import TypeDraft.Schema.Pattern
import TypeDraft.Schema.Rows
import TypeDraft.Shape.Basic
import TypeDraft.Terminal.Box
import TypeDraft.Terminal.Control
import TypeDraft.Terminal.Emoji
import TypeDraft.Terminal.Markup
import TypeDraft.Terminal.Width
import TypeDraft.Terminal.Wrap
import TypeDraft.Text.Base64
import TypeDraft.Text.Blank
import TypeDraft.Text.Case
import TypeDraft.Text.Printable
import TypeDraft.Text.Similar
import TypeDraft.Text.Surrogate
import TypeDraft.Text.Utf8
import TypeDraft.TypeScript.Advanced
import TypeDraft.TypeScript.Basic
import TypeDraft.TypeScript.Declaration
import TypeDraft.TypeScript.Expression
import TypeDraft.Value
import TypeDraft.Value.Alike
import TypeDraft.Value.Display
import TypeDraft.Value.Nesting
import TypeDraft.Value.Normal
import TypeDraft.Value.SetOrder
import TypeDraft.Yaml.Cursor
import TypeDraft.Yaml.Document
import TypeDraft.Yaml.Graph
import TypeDraft.Yaml.Load
import TypeDraft.Yaml.Plain
import TypeDraft.Yaml.Quoted
import TypeDraft.Yaml.Scalar
import TypeDraft.Yaml.Token
import TypeDraft.Zod
