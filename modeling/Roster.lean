import Roster.Arguments
import Roster.Artifact
import Roster.ClassIndex
import Roster.CommandLine
import Roster.ConfigFault
import Roster.Decimal.Binary64
import Roster.Decimal.Shortest
import Roster.Diagnostic
import Roster.Document.Fault
import Roster.Document.Node
import Roster.Document.Reading
import Roster.Document.Scalar
import Roster.Document.Tag
import Roster.Document.Token
import Roster.Document.Value
import Roster.Emitter
import Roster.Failure
import Roster.FieldNames
import Roster.FileTree
import Roster.Ignore
import Roster.InputFault
import Roster.Limits
import Roster.Lineage
import Roster.Log
import Roster.LogSinks
import Roster.Main
import Roster.Manifest
import Roster.Marker
import Roster.OrderedMap
import Roster.Path
import Roster.Proofs.AcceptedSettings
import Roster.Proofs.Accounting
import Roster.Proofs.AncestorChains
import Roster.Proofs.AnchoredRules
import Roster.Proofs.BaseLinks
import Roster.Proofs.ChosenSources
import Roster.Proofs.CollectionLog
import Roster.Proofs.Collisions
import Roster.Proofs.CompanionLines
import Roster.Proofs.CompanionModule
import Roster.Proofs.CompanionPaths
import Roster.Proofs.CompanionWords
import Roster.Proofs.Companions
import Roster.Proofs.Completeness
import Roster.Proofs.DebuggingLines
import Roster.Proofs.DecimalNumerals
import Roster.Proofs.DeclaredFields
import Roster.Proofs.DiscoveredClasses
import Roster.Proofs.DiscoveredCompanions
import Roster.Proofs.Discovery
import Roster.Proofs.DryRuns
import Roster.Proofs.Emission
import Roster.Proofs.EncodedCompanions
import Roster.Proofs.EscapedText
import Roster.Proofs.FieldListing
import Roster.Proofs.FirstDefinitions
import Roster.Proofs.FirstOccurrences
import Roster.Proofs.GroupedPositions
import Roster.Proofs.InterpolatedLiterals
import Roster.Proofs.LastingNames
import Roster.Proofs.LexedLines
import Roster.Proofs.Lineage
import Roster.Proofs.ListedNames
import Roster.Proofs.LogDelivery
import Roster.Proofs.LoggedErrors
import Roster.Proofs.MakingBelow
import Roster.Proofs.ManifestEntries
import Roster.Proofs.ManifestFaults
import Roster.Proofs.ModuleNames
import Roster.Proofs.NamedSets
import Roster.Proofs.NamedTrees
import Roster.Proofs.OptionSpelling
import Roster.Proofs.OutputBounds
import Roster.Proofs.OutputExclusion
import Roster.Proofs.OutputGrowth
import Roster.Proofs.PairDocuments
import Roster.Proofs.PairLines
import Roster.Proofs.ParsedExpressions
import Roster.Proofs.ParsedStatements
import Roster.Proofs.PassedNames
import Roster.Proofs.Places
import Roster.Proofs.PlainLines
import Roster.Proofs.RelativeImports
import Roster.Proofs.RepeatedDelivery
import Roster.Proofs.RepeatedMaking
import Roster.Proofs.RepeatedRounds
import Roster.Proofs.RowsOfSigns
import Roster.Proofs.ScanOrder
import Roster.Proofs.ScannedFiles
import Roster.Proofs.ScannedModules
import Roster.Proofs.ScannedTree
import Roster.Proofs.SessionHistory
import Roster.Proofs.SettingsFile
import Roster.Proofs.SharedModules
import Roster.Proofs.SingleWrites
import Roster.Proofs.SkippedModules
import Roster.Proofs.SoundTrees
import Roster.Proofs.Splitting
import Roster.Proofs.StableScan
import Roster.Proofs.TextOrder
import Roster.Proofs.TwoPhaseLiterals
import Roster.Proofs.WordedLines
import Roster.Proofs.WorkerOrder
import Roster.Proofs.WrittenFiles
import Roster.Rendering
import Roster.Request
import Roster.Round
import Roster.RoundSession
import Roster.SetStore
import Roster.Settings
import Roster.Source.Declarations
import Roster.Source.Expression
import Roster.Source.Lexer
import Roster.Source.Literal
import Roster.Source.Module
import Roster.Source.Parser
import Roster.Source.Pattern
import Roster.Source.Statement
import Roster.Source.Token
import Roster.Source.Tree
import Roster.SourceScan
import Roster.Text.Blank
import Roster.Text.CharacterName
import Roster.Text.CharacterName.Table
import Roster.Text.CodeTable
import Roster.Text.Escaped
import Roster.Text.Identifier
import Roster.Text.Lowercase
import Roster.Text.Normalize
import Roster.Text.Numeral
import Roster.Text.Printable
import Roster.Text.Quoted
import Roster.Text.Surrogate
import Roster.Text.Utf8
import Roster.TypeGraph
import Roster.TypeSource
import Roster.Wildcard
import Roster.WorkerPool
