import GraphBinding.Aliases
import GraphBinding.Arguments
import GraphBinding.Binary64
import GraphBinding.Binary64.Shortest
import GraphBinding.Catalog
import GraphBinding.Client
import GraphBinding.Client.Check
import GraphBinding.CommandLine
import GraphBinding.CommandLine.Options
import GraphBinding.Decoder
import GraphBinding.Decoder.Error
import GraphBinding.Decoder.Shape
import GraphBinding.Document
import GraphBinding.Document.Decoder
import GraphBinding.Draft
import GraphBinding.FieldType
import GraphBinding.FileTree
import GraphBinding.GenerationError
import GraphBinding.Identity
import GraphBinding.InputType
import GraphBinding.Json
import GraphBinding.Json.Number
import GraphBinding.Json.Parser
import GraphBinding.Json.Printer
import GraphBinding.Json.Skipping
import GraphBinding.Json.Syntax
import GraphBinding.Main
import GraphBinding.Module
import GraphBinding.Module.Declaration
import GraphBinding.Module.Script
import GraphBinding.ObjectType
import GraphBinding.Projection
import GraphBinding.Projection.Inputs
import GraphBinding.Projection.Objects
import GraphBinding.Projection.Query
import GraphBinding.Reading
import GraphBinding.ResolveError
import GraphBinding.Resolver
import GraphBinding.Scalar
import GraphBinding.Schema
import GraphBinding.Settings
import GraphBinding.Settings.Decoder
import GraphBinding.Settings.Encoder
import GraphBinding.Settings.Overrides
import GraphBinding.Table
import GraphBinding.Text.AlphanumericTable
import GraphBinding.Text.CaseTable
import GraphBinding.Text.LetterCase
import GraphBinding.Text.Lines
import GraphBinding.Text.PrintableTable
import GraphBinding.Text.Quoted
import GraphBinding.Text.Words
import GraphBinding.TypeRef
import GraphBinding.Proofs.Renaming
import GraphBinding.Proofs.Registration
import GraphBinding.Proofs.Drafting
import GraphBinding.Proofs.Session
import GraphBinding.Proofs.NativeValues
import GraphBinding.Proofs.ExposedValues
import GraphBinding.Proofs.AliasedRequests
import GraphBinding.Proofs.Origins
import GraphBinding.Proofs.Requests
import GraphBinding.Proofs.DocumentTypes
import GraphBinding.Proofs.ClosedGraph
import GraphBinding.Proofs.Refusals
import GraphBinding.Proofs.Violations
import GraphBinding.Proofs.Generation
import GraphBinding.Proofs.Precedence
import GraphBinding.Proofs.CompoundInputs
import GraphBinding.Proofs.OwnFilters
import GraphBinding.Proofs.CamelCase
import GraphBinding.Proofs.ObjectNames
import GraphBinding.Proofs.Emission
import GraphBinding.Proofs.TypeNames
import GraphBinding.Proofs.UniqueClauses
import GraphBinding.Proofs.IdentityTiers
import GraphBinding.Proofs.ParentLookup
import GraphBinding.Proofs.Resolutions
import GraphBinding.Proofs.ClientCalls
import GraphBinding.Proofs.CheckStrategies
import GraphBinding.Proofs.PageBounds
import GraphBinding.Proofs.PageWalk
import GraphBinding.Proofs.Literals
import GraphBinding.Proofs.ModuleOutlines
import GraphBinding.Proofs.LockStep
import GraphBinding.Proofs.Memoisation
import GraphBinding.Proofs.Overriding
import GraphBinding.Proofs.DeclaredAliases
import GraphBinding.Proofs.DocumentedTypes
import GraphBinding.Proofs.Documentation
import GraphBinding.Proofs.RelationLookups
import GraphBinding.Proofs.Reprojection
import GraphBinding.Proofs.SharedBody
import GraphBinding.Proofs.JsonTexts
import GraphBinding.Proofs.EmbeddedTexts
import GraphBinding.Proofs.QueryFields
import GraphBinding.Proofs.RenamingBack
import GraphBinding.Proofs.KeptConditions
import GraphBinding.Proofs.Records
import GraphBinding.Proofs.Pruning
import GraphBinding.Proofs.SettingsForms
import GraphBinding.Proofs.ShapedTexts
import GraphBinding.Proofs.SettingsTexts
import GraphBinding.Proofs.ModelTypes
import GraphBinding.Proofs.WholeLists
import GraphBinding.Proofs.AliasOrder
import GraphBinding.Proofs.DescriptionBlocks
import GraphBinding.Proofs.CommentBlocks
import GraphBinding.Proofs.TypeRenderings
import GraphBinding.Proofs.OverlookedSteps
import GraphBinding.Proofs.KnownMembers
