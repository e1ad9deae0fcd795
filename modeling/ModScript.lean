import ModScript.Address
import ModScript.Binary64.Basic
import ModScript.Binary64.Decimal
import ModScript.Callback
import ModScript.CommandLine.Arguments
import ModScript.CommandLine.Failure
import ModScript.CommandLine.Report
import ModScript.CommandLine.Usage
import ModScript.Config
import ModScript.Declaration.Basic
import ModScript.Declaration.Catalog
import ModScript.Declaration.Fault
import ModScript.Declaration.File
import ModScript.Declaration.Part
import ModScript.Digest.Sha256
import ModScript.Duration
import ModScript.Error
import ModScript.Files.Basic
import ModScript.Files.Path
import ModScript.Files.Tree
import ModScript.Game.Basic
import ModScript.Game.Catalog
import ModScript.Game.Consistency
import ModScript.Game.Inheritance
import ModScript.Game.Loading
import ModScript.Json.Basic
import ModScript.Json.Reader
import ModScript.Json.Text
import ModScript.Main
import ModScript.Notice
import ModScript.OrderedMap
import ModScript.Proofs.Acceptance
import ModScript.Proofs.Catalog
import ModScript.Proofs.Consistency
import ModScript.Proofs.ConstantNames
import ModScript.Proofs.Constants
import ModScript.Proofs.Directories
import ModScript.Proofs.GameDirectories
import ModScript.Proofs.HookInstallation
import ModScript.Proofs.Inheritance
import ModScript.Proofs.Json.Games
import ModScript.Proofs.Json.Numerals
import ModScript.Proofs.Json.Reading
import ModScript.Proofs.Json.Tables
import ModScript.Proofs.Loading
import ModScript.Proofs.ModFiles
import ModScript.Proofs.OrderedMap
import ModScript.Proofs.PatchChoice
import ModScript.Proofs.PatchIndependence
import ModScript.Proofs.Quoting
import ModScript.Proofs.Resolution
import ModScript.Proofs.Script.Bindings
import ModScript.Proofs.Script.BlockSurfaces
import ModScript.Proofs.Script.Blocks
import ModScript.Proofs.Script.Data
import ModScript.Proofs.Script.Isolation
import ModScript.Proofs.Script.Layout
import ModScript.Proofs.Script.Lexer
import ModScript.Proofs.Script.ModuleBases
import ModScript.Proofs.Script.Soundness
import ModScript.Proofs.Script.Surface
import ModScript.Proofs.Script.Templates
import ModScript.Proofs.Script.TopLevel
import ModScript.Proofs.Session.Calls
import ModScript.Proofs.Session.Cancellation
import ModScript.Proofs.Session.Choice
import ModScript.Proofs.Session.Delivery
import ModScript.Proofs.Session.Logs
import ModScript.Proofs.Session.Operation
import ModScript.Proofs.Session.Run
import ModScript.Proofs.Session.StatusMachine
import ModScript.Proofs.Session.Visit
import ModScript.Proofs.WellFormed
import ModScript.Script.Basic
import ModScript.Script.Expression
import ModScript.Script.HookTarget
import ModScript.Script.Names
import ModScript.Script.Support
import ModScript.Script.Text
import ModScript.Session.Basic
import ModScript.Session.CancelSignal
import ModScript.Session.Dispatch
import ModScript.Session.Message
import ModScript.Session.Request
import ModScript.Session.Turn
import ModScript.Table.Entry
import ModScript.Table.Types
import ModScript.Text.Blank
import ModScript.Text.Quoted
import ModScript.Text.Sorted
import ModScript.Text.Visible
import ModScript.Toml.Reader
import ModScript.Toml.Scalar
import ModScript.Toml.Table
import ModScript.Tree
import ModScript.Proofs.Divergence
import ModScript.Proofs.Session.Discovery
import ModScript.Proofs.Session.Waits
import ModScript.Proofs.Session.Pumps
import ModScript.Proofs.InheritedNames
import ModScript.Proofs.Script.Lines
import ModScript.Proofs.Script.PlacedVariables
import ModScript.Proofs.Script.Receivers
import ModScript.Proofs.Script.HookArguments
import ModScript.Proofs.Addresses
import ModScript.Proofs.Json.Messages
import ModScript.Proofs.ModEntries
import ModScript.Proofs.Script.Literals
