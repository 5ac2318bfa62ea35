import ModularRouter.Abi.Parameter
import ModularRouter.Abi.TypeText
import ModularRouter.Address
import ModularRouter.Artifact.Basic
import ModularRouter.Artifact.Deployments
import ModularRouter.Artifact.Loading
import ModularRouter.Association
import ModularRouter.Ast.Basic
import ModularRouter.Ast.Declaration
import ModularRouter.Ast.Decode
import ModularRouter.Ast.Nesting
import ModularRouter.CommandLine.Arguments
import ModularRouter.CommandLine.Dotenv
import ModularRouter.CommandLine.Environment
import ModularRouter.CommandLine.Program
import ModularRouter.CommandLine.TreeAccess
import ModularRouter.CommandLine.Variables
import ModularRouter.Double.Basic
import ModularRouter.Double.Shortest
import ModularRouter.Files.Path
import ModularRouter.Files.Tree
import ModularRouter.Fixture.Basic
import ModularRouter.Fixture.Build
import ModularRouter.Fixture.Interface
import ModularRouter.Fixture.Numbering
import ModularRouter.Fixture.TypeSketch
import ModularRouter.Grouping
import ModularRouter.Hash.Keccak
import ModularRouter.Json.Basic
import ModularRouter.Json.Decode
import ModularRouter.Json.Literal
import ModularRouter.Json.Printer
import ModularRouter.Json.Reader
import ModularRouter.Json.Surplus
import ModularRouter.Main
import ModularRouter.Namespace.Collection
import ModularRouter.Namespace.Scope
import ModularRouter.Namespace.Slot
import ModularRouter.Namespace.Target
import ModularRouter.Proofs.Storage.Compatibility
import ModularRouter.Proofs.Storage.Packing
import ModularRouter.Proofs.Storage.Places
import ModularRouter.Router.Collision
import ModularRouter.Router.DispatchTree
import ModularRouter.Router.Error
import ModularRouter.Router.Filter
import ModularRouter.Router.Fragment
import ModularRouter.Router.Function
import ModularRouter.Router.Generation
import ModularRouter.Router.Source
import ModularRouter.Router.Template
import ModularRouter.Storage.Comparison
import ModularRouter.Storage.ElementaryType
import ModularRouter.Storage.Encoding
import ModularRouter.Storage.Extraction
import ModularRouter.Storage.Layout
import ModularRouter.Storage.Mutation
import ModularRouter.Storage.Packing
import ModularRouter.Storage.Resolver
import ModularRouter.Storage.Selection
import ModularRouter.Storage.Shape
import ModularRouter.Storage.Upgrade
import ModularRouter.Text.Alphanumeric
import ModularRouter.Text.Blank
import ModularRouter.Text.Hex
import ModularRouter.Text.Numeral
import ModularRouter.Text.Quoted
import ModularRouter.Text.Ranges
import ModularRouter.Text.Search
import ModularRouter.Text.Unprintable
import ModularRouter.Text.Utf8
import ModularRouter.Proofs.Storage.Preservation
import ModularRouter.Proofs.Storage.MovedMembers
import ModularRouter.Proofs.Text.Hex
import ModularRouter.Proofs.Yul.Program
import ModularRouter.Proofs.Router.Collection
import ModularRouter.Proofs.Router.Words
import ModularRouter.Proofs.Router.Constants
import ModularRouter.Proofs.Router.Table
import ModularRouter.Proofs.Router.Dispatch
import ModularRouter.Proofs.Results
import ModularRouter.Proofs.Storage.Resolution
import ModularRouter.Proofs.Ast.Declarations
import ModularRouter.Proofs.Storage.StepLimit
import ModularRouter.Proofs.Storage.Words
import ModularRouter.Proofs.Storage.Growth
import ModularRouter.Proofs.Storage.Extraction
import ModularRouter.Proofs.Storage.Space
import ModularRouter.Proofs.Storage.SelfReference
import ModularRouter.Proofs.Namespace.Locals
import ModularRouter.Proofs.Namespace.Assembly
import ModularRouter.Proofs.Json.Fields
import ModularRouter.Proofs.Json.Roundtrip
import ModularRouter.Proofs.Namespace.RecordedSlots
import ModularRouter.Proofs.Storage.DumpEncoding
import ModularRouter.Proofs.Storage.History
import ModularRouter.Proofs.Storage.Replacement
import ModularRouter.Proofs.Namespace.SharedWords
import ModularRouter.Proofs.Storage.Completeness
import ModularRouter.Proofs.Storage.ReadableDumps
import ModularRouter.Proofs.Storage.Erasure
import ModularRouter.Proofs.Storage.Unchanged
import ModularRouter.Proofs.Storage.CanonicalTypes
import ModularRouter.Proofs.Storage.ArrayLengths
import ModularRouter.Proofs.Storage.Reachability
import ModularRouter.Proofs.Storage.Rerun
import ModularRouter.Proofs.Storage.StorageRules
import ModularRouter.Proofs.Router.Failures
import ModularRouter.Proofs.Router.Reordering
import ModularRouter.Proofs.Artifact.Interleaving
import ModularRouter.Proofs.Storage.KeyedDumps
import ModularRouter.Proofs.Reordering
import ModularRouter.Proofs.Router.Balance
import ModularRouter.Proofs.Storage.Additions
import ModularRouter.Proofs.Storage.Reordering
import ModularRouter.Proofs.Storage.Leaves
import ModularRouter.Proofs.Storage.Displacement
import ModularRouter.Proofs.Storage.Nesting
import ModularRouter.Proofs.Storage.RecordedPlaces
import ModularRouter.Proofs.Router.Collisions
import ModularRouter.Proofs.Namespace.Indirections
import ModularRouter.Proofs.Router.Filling
import ModularRouter.Proofs.Router.TableLines
import ModularRouter.Proofs.Router.IgnoredFragments
import ModularRouter.Proofs.Selections
import ModularRouter.Proofs.Storage.Resolver
import ModularRouter.Proofs.Storage.RestoredState
import ModularRouter.Proofs.Ast.Pruning
import ModularRouter.Proofs.Pruning
import ModularRouter.Proofs.UnknownNodes
