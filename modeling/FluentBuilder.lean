import FluentBuilder.BuilderCode
import FluentBuilder.BuilderItems
import FluentBuilder.BuilderModel
import FluentBuilder.Code.Declaration
import FluentBuilder.Code.ExprShape
import FluentBuilder.Code.Grammar.AttributeRules
import FluentBuilder.Code.Grammar.DataRules
import FluentBuilder.Code.Grammar.ExprRules
import FluentBuilder.Code.Grammar.FunctionRules
import FluentBuilder.Code.Grammar.ItemRules
import FluentBuilder.Code.Grammar.Nonterminal
import FluentBuilder.Code.Grammar.PatternRules
import FluentBuilder.Code.Grammar.StatementRules
import FluentBuilder.Code.Grammar.TypeRules
import FluentBuilder.Code.Identifier
import FluentBuilder.Code.Lexer
import FluentBuilder.Code.LiteralScan
import FluentBuilder.Code.LiteralValue
import FluentBuilder.Code.Parser
import FluentBuilder.Code.Source
import FluentBuilder.Code.Token
import FluentBuilder.Code.Tree
import FluentBuilder.Code.TreeTokens
import FluentBuilder.Command.Arguments
import FluentBuilder.Command.Run
import FluentBuilder.Config
import FluentBuilder.Data.Decimal
import FluentBuilder.Data.Decoder
import FluentBuilder.Data.DescriptorFormat
import FluentBuilder.Data.Json
import FluentBuilder.Data.Toml
import FluentBuilder.Data.TomlScalar
import FluentBuilder.Data.TomlText
import FluentBuilder.Data.Value
import FluentBuilder.Describe
import FluentBuilder.Descriptor
import FluentBuilder.Expand
import FluentBuilder.Layout.AttributeLayout
import FluentBuilder.Layout.Bracing
import FluentBuilder.Layout.BuilderLayout
import FluentBuilder.Layout.Document
import FluentBuilder.Layout.MacroLayout
import FluentBuilder.Layout.TreeLayout
import FluentBuilder.Main
import FluentBuilder.Proofs.BuilderNames
import FluentBuilder.Proofs.BuilderSlots
import FluentBuilder.Proofs.CallableConstructors
import FluentBuilder.Proofs.Code.AttributeReading
import FluentBuilder.Proofs.Code.CommaLists
import FluentBuilder.Proofs.Code.Consumption
import FluentBuilder.Proofs.Code.ExprReading
import FluentBuilder.Proofs.Code.GrammarConsumption
import FluentBuilder.Proofs.Code.ImportedPaths
import FluentBuilder.Proofs.Code.ItemReading
import FluentBuilder.Proofs.Code.LexedText
import FluentBuilder.Proofs.Code.LiteralReading
import FluentBuilder.Proofs.Code.Names
import FluentBuilder.Proofs.Code.RuleSteps
import FluentBuilder.Proofs.Code.SpelledName
import FluentBuilder.Proofs.Code.StatementReading
import FluentBuilder.Proofs.Code.StructNames
import FluentBuilder.Proofs.Code.TextLiterals
import FluentBuilder.Proofs.Code.TokenWords
import FluentBuilder.Proofs.Code.TypeReading
import FluentBuilder.Proofs.Code.Words
import FluentBuilder.Proofs.Command.ConfigLocation
import FluentBuilder.Proofs.Command.Drivers
import FluentBuilder.Proofs.Command.KeepGoing
import FluentBuilder.Proofs.Command.KeptFiles
import FluentBuilder.Proofs.Command.Words
import FluentBuilder.Proofs.ConfigText
import FluentBuilder.Proofs.Data.JsonTexts
import FluentBuilder.Proofs.Data.Records
import FluentBuilder.Proofs.Data.TomlDocuments
import FluentBuilder.Proofs.Data.TomlTexts
import FluentBuilder.Proofs.Demands
import FluentBuilder.Proofs.DescribedStructs
import FluentBuilder.Proofs.Descriptions
import FluentBuilder.Proofs.DescriptorData
import FluentBuilder.Proofs.PrintedModels
import FluentBuilder.Proofs.Expansion
import FluentBuilder.Proofs.Layout.BodyTexts
import FluentBuilder.Proofs.Layout.BuilderTexts
import FluentBuilder.Proofs.Layout.FileTexts
import FluentBuilder.Proofs.Layout.Phrases
import FluentBuilder.Proofs.Layout.Spelling
import FluentBuilder.Proofs.Layout.TypeTexts
import FluentBuilder.Proofs.Outcome
import FluentBuilder.Proofs.PackageImports
import FluentBuilder.Proofs.PlacedItems
import FluentBuilder.Proofs.References
import FluentBuilder.Proofs.Revisions
import FluentBuilder.Proofs.RuleChains
import FluentBuilder.Proofs.RuleVerdict
import FluentBuilder.Proofs.ScannedItems
import FluentBuilder.Proofs.ScannedTypes
import FluentBuilder.Proofs.Substitution
import FluentBuilder.Proofs.Synthesis
import FluentBuilder.Proofs.Text.IdentifierCharacter
import FluentBuilder.Proofs.Text.SnakeCase
import FluentBuilder.Proofs.Text.WordBoundaries
import FluentBuilder.Proofs.Workspace.AddedFiles
import FluentBuilder.Proofs.Workspace.BuilderFiles
import FluentBuilder.Proofs.Workspace.DiscoveredTypes
import FluentBuilder.Proofs.Workspace.DistinctNames
import FluentBuilder.Proofs.Workspace.FailurePolicies
import FluentBuilder.Proofs.Workspace.FileNames
import FluentBuilder.Proofs.Workspace.GeneratedTexts
import FluentBuilder.Proofs.Workspace.InertFiles
import FluentBuilder.Proofs.Workspace.KeptOrigins
import FluentBuilder.Proofs.Workspace.KnownWalks
import FluentBuilder.Proofs.Workspace.ModuleFiles
import FluentBuilder.Proofs.Workspace.ModulePaths
import FluentBuilder.Proofs.Workspace.OutputDirectory
import FluentBuilder.Proofs.Workspace.PassOutcome
import FluentBuilder.Proofs.Workspace.Passes
import FluentBuilder.Proofs.Workspace.PathSteps
import FluentBuilder.Proofs.Workspace.Planning
import FluentBuilder.Proofs.Workspace.RebasedPasses
import FluentBuilder.Proofs.Workspace.RegularTrees
import FluentBuilder.Proofs.Workspace.RepeatedPasses
import FluentBuilder.Proofs.Workspace.SourceFiles
import FluentBuilder.Proofs.Workspace.SourceRoots
import FluentBuilder.Proofs.Workspace.TreeGrowth
import FluentBuilder.Proofs.Workspace.Walks
import FluentBuilder.Proofs.Workspace.WorkingPaths
import FluentBuilder.Rule
import FluentBuilder.Scan
import FluentBuilder.Selection
import FluentBuilder.Text.CharacterClass
import FluentBuilder.Text.Cluster
import FluentBuilder.Text.ClusterTable
import FluentBuilder.Text.IdentifierTable
import FluentBuilder.Text.LetterCase
import FluentBuilder.Text.LetterCaseTable
import FluentBuilder.Text.PrintableTable
import FluentBuilder.Text.Quoted
import FluentBuilder.Text.SnakeCase
import FluentBuilder.Text.Utf8
import FluentBuilder.Workspace.ConfigFile
import FluentBuilder.Workspace.Discovery
import FluentBuilder.Workspace.EnvironmentFile
import FluentBuilder.Workspace.Failure
import FluentBuilder.Workspace.FilePath
import FluentBuilder.Workspace.FileTree
import FluentBuilder.Workspace.Generation
import FluentBuilder.Workspace.ModulePath
import FluentBuilder.Workspace.Settings
