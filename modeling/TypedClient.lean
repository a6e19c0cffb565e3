import TypedClient.Client.Mode
import TypedClient.Client.Request
import TypedClient.Client.Settings
import TypedClient.CommandLine.Arguments
import TypedClient.CommandLine.Command
import TypedClient.CommandLine.Reach
import TypedClient.CommandLine.Session
import TypedClient.Configuration
import TypedClient.Error
import TypedClient.Files.Path
import TypedClient.Files.Tree
import TypedClient.Formatting
import TypedClient.Json.Basic
import TypedClient.Json.Parser
import TypedClient.Json.Pointer
import TypedClient.Json.Printer
import TypedClient.Json.Token
import TypedClient.Lexical.Docstring
import TypedClient.Lexical.Identifier
import TypedClient.Lexical.Literal
import TypedClient.Loading.Source
import TypedClient.Loading.Text
import TypedClient.Main
import TypedClient.Naming
import TypedClient.Number.Double
import TypedClient.Number.Shortest
import TypedClient.OpenApi.Decode
import TypedClient.OpenApi.Document
import TypedClient.OpenApi.Method
import TypedClient.OpenApi.Reading
import TypedClient.OpenApi.Reference
import TypedClient.OpenApi.Schema
import TypedClient.Plan.Build
import TypedClient.Plan.Call
import TypedClient.Plan.Component
import TypedClient.Plan.Endpoint
import TypedClient.Plan.Imports
import TypedClient.Plan.Kind
import TypedClient.Plan.Model
import TypedClient.Plan.Names
import TypedClient.Plan.Order
import TypedClient.Plan.Report
import TypedClient.Plan.Variants
import TypedClient.Proofs.Kinds
import TypedClient.Proofs.Lists
import TypedClient.Proofs.Names.Claims
import TypedClient.Proofs.Names.Stages
import TypedClient.Proofs.Order.Arrangement
import TypedClient.Proofs.Order.Dependencies
import TypedClient.Proofs.Order.Emission
import TypedClient.Proofs.Order.Reachability
import TypedClient.Proofs.Plan.Calls
import TypedClient.Proofs.Plan.Closure
import TypedClient.Proofs.Plan.Components
import TypedClient.Proofs.Plan.Draft
import TypedClient.Proofs.Plan.FunctionNames
import TypedClient.Render.Artifacts
import TypedClient.Render.Classes
import TypedClient.Render.Functions
import TypedClient.Render.ImportLines
import TypedClient.Render.Templates
import TypedClient.Render.TypeHint
import TypedClient.Render.Variables
import TypedClient.Run
import TypedClient.Shell.Programs
import TypedClient.Shell.Script
import TypedClient.Template.Evaluation
import TypedClient.Template.Library
import TypedClient.Template.Printer
import TypedClient.Template.Reading
import TypedClient.Template.Syntax
import TypedClient.Template.Token
import TypedClient.Text.Alphabetic
import TypedClient.Text.Blank
import TypedClient.Text.Bytes
import TypedClient.Text.CaseMap
import TypedClient.Text.Hex
import TypedClient.Text.Quoted
import TypedClient.Text.Run
import TypedClient.Text.Unprintable
import TypedClient.Text.Uppercase
import TypedClient.Toml.Document
import TypedClient.Toml.Quoted
import TypedClient.Toml.Table
import TypedClient.Url.Basic
import TypedClient.Url.Host
import TypedClient.Url.Percent
import TypedClient.Url.Punycode
import TypedClient.Yaml.Block
import TypedClient.Yaml.Document
import TypedClient.Yaml.Fold
import TypedClient.Yaml.Node
import TypedClient.Yaml.Plain
import TypedClient.Yaml.Property
import TypedClient.Yaml.Quoted
import TypedClient.Yaml.Scalar
import TypedClient.Yaml.Spot
import TypedClient.Yaml.Token
import TypedClient.Proofs.Plan.ClassNames
import TypedClient.Proofs.Lexical.Identifiers
import TypedClient.Proofs.Lexical.FreshNames
import TypedClient.Proofs.Number.Rounding
import TypedClient.Proofs.Number.Shortest
import TypedClient.Proofs.Number.WrittenForm
import TypedClient.Proofs.Json.WrittenForm
import TypedClient.Proofs.Names.Enumerations
import TypedClient.Proofs.Names.Registry
import TypedClient.Proofs.Lexical.ClassWords
import TypedClient.Proofs.Plan.Enumerations
import TypedClient.Proofs.Plan.ClassIdentifiers
import TypedClient.Proofs.Plan.Fields
import TypedClient.Proofs.Plan.Placement
import TypedClient.Proofs.Plan.Visibility
import TypedClient.Proofs.Plan.Required
import TypedClient.Proofs.Order.Extension
import TypedClient.Proofs.Plan.Operations
import TypedClient.Proofs.Plan.Filtering
import TypedClient.Proofs.Plan.ImportedNames
import TypedClient.Proofs.Render.Pieces
import TypedClient.Proofs.Render.Imports
import TypedClient.Proofs.Files.Paths
import TypedClient.Proofs.Files.Trees
import TypedClient.Proofs.Files.Ways
import TypedClient.Proofs.Run.Writing
import TypedClient.Proofs.Lexical.ReservedNames
import TypedClient.Proofs.Lexical.SnakeCase
import TypedClient.Proofs.Text.Replacement
import TypedClient.Proofs.Plan.Paths
import TypedClient.Proofs.Plan.PathParameters
import TypedClient.Proofs.Plan.FieldNames
import TypedClient.Proofs.Text.Lines
import TypedClient.Proofs.Template.Pieces
import TypedClient.Proofs.Template.Reading
import TypedClient.Proofs.Template.Layout
import TypedClient.Proofs.Render.Builtin
import TypedClient.Proofs.Render.OneLine
import TypedClient.Proofs.Render.ClientLayout
import TypedClient.Proofs.Render.ClientOutline
import TypedClient.Proofs.Lexical.Capitals
import TypedClient.Proofs.Plan.Members
import TypedClient.Proofs.Plan.AliasChains
import TypedClient.Proofs.Plan.Aliases
import TypedClient.Proofs.Plan.SharedEnumerations
import TypedClient.Proofs.Render.Shadowing
import TypedClient.Proofs.OpenApi.ReferenceChains
import TypedClient.Proofs.Plan.ReferenceFlags
import TypedClient.Proofs.Plan.ReferenceWalks
import TypedClient.Proofs.Plan.BodyLimits
import TypedClient.Proofs.Plan.Termination
import TypedClient.Proofs.Text.Words
import TypedClient.Proofs.Lexical.Docstrings
import TypedClient.Proofs.Render.Docstrings
import TypedClient.Proofs.Lexical.StringLiterals
import TypedClient.Proofs.Order.Stability
import TypedClient.Proofs.Render.Population
import TypedClient.Proofs.Render.UrlExpressions
import TypedClient.Proofs.Render.Captures
import TypedClient.Proofs.Lexical.OnePass
import TypedClient.Proofs.Render.Literals
import TypedClient.Proofs.Run.Formatting
import TypedClient.Proofs.Plan.AliasDepth
