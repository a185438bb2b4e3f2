import PromptTemplate.Command
import PromptTemplate.Command.Configuration
import PromptTemplate.Command.Environment
import PromptTemplate.Command.Help
import PromptTemplate.Command.Inspection
import PromptTemplate.Command.Listing
import PromptTemplate.Command.Rendering
import PromptTemplate.Command.Run
import PromptTemplate.Command.Suggestion
import PromptTemplate.Command.Usage
import PromptTemplate.CommandLine
import PromptTemplate.Config
import PromptTemplate.Declaration
import PromptTemplate.Declaration.Distinct
import PromptTemplate.Declaration.Json
import PromptTemplate.Declaration.OfText
import PromptTemplate.Diagnostic
import PromptTemplate.Directive
import PromptTemplate.Edit
import PromptTemplate.Failure
import PromptTemplate.FilePath
import PromptTemplate.FileTree
import PromptTemplate.FileTree.Glob
import PromptTemplate.Json
import PromptTemplate.Json.Reader
import PromptTemplate.Kind
import PromptTemplate.Main
import PromptTemplate.Number.Binary64
import PromptTemplate.Number.Decimal
import PromptTemplate.Number.Integer
import PromptTemplate.Number.Shortest
import PromptTemplate.Offset
import PromptTemplate.Ordering
import PromptTemplate.Proofs.BlockTags
import PromptTemplate.Proofs.BracedItems
import PromptTemplate.Proofs.CollectedUsages
import PromptTemplate.Proofs.ConfigurationRoundTrip
import PromptTemplate.Proofs.ConfigurationRuns
import PromptTemplate.Proofs.ConsistentDefaults
import PromptTemplate.Proofs.DecimalText
import PromptTemplate.Proofs.DeclarationCollapse
import PromptTemplate.Proofs.DeclarationInventory
import PromptTemplate.Proofs.DeclarationLookup
import PromptTemplate.Proofs.DeclarationShape
import PromptTemplate.Proofs.DeclarationsReadBack
import PromptTemplate.Proofs.DirectiveFindings
import PromptTemplate.Proofs.DirectiveGrammar
import PromptTemplate.Proofs.DistinctControls
import PromptTemplate.Proofs.Document
import PromptTemplate.Proofs.DocumentReading
import PromptTemplate.Proofs.DocumentScan
import PromptTemplate.Proofs.EditDistance
import PromptTemplate.Proofs.EffectiveDirectives
import PromptTemplate.Proofs.ExpandedInputs
import PromptTemplate.Proofs.FailingRuns
import PromptTemplate.Proofs.FillingIn
import PromptTemplate.Proofs.Findings
import PromptTemplate.Proofs.FirstAppearances
import PromptTemplate.Proofs.FirstFaults
import PromptTemplate.Proofs.FollowedPaths
import PromptTemplate.Proofs.GreedySplice
import PromptTemplate.Proofs.IsolatedPlaces
import PromptTemplate.Proofs.KeptFiles
import PromptTemplate.Proofs.LeftmostItems
import PromptTemplate.Proofs.Locations
import PromptTemplate.Proofs.MergedControls
import PromptTemplate.Proofs.MisfitPlaces
import PromptTemplate.Proofs.MovedDeclarations
import PromptTemplate.Proofs.NaNSigns
import PromptTemplate.Proofs.NumbersReadBack
import PromptTemplate.Proofs.Offsets
import PromptTemplate.Proofs.OrderedEntries
import PromptTemplate.Proofs.PathPieces
import PromptTemplate.Proofs.PlacedFindings
import PromptTemplate.Proofs.Redeclarations
import PromptTemplate.Proofs.ReferenceRewriting
import PromptTemplate.Proofs.RenderingEdits
import PromptTemplate.Proofs.RenderingFrame
import PromptTemplate.Proofs.RenderingSteps
import PromptTemplate.Proofs.RepeatedMerging
import PromptTemplate.Proofs.Replacing
import PromptTemplate.Proofs.ReportedCauses
import PromptTemplate.Proofs.RoundedNumbers
import PromptTemplate.Proofs.ScanPieces
import PromptTemplate.Proofs.ScanRun
import PromptTemplate.Proofs.ShortestDigits
import PromptTemplate.Proofs.SpannedBlocks
import PromptTemplate.Proofs.SpliceReading
import PromptTemplate.Proofs.StableSorting
import PromptTemplate.Proofs.StoredFiles
import PromptTemplate.Proofs.SurroundedRendering
import PromptTemplate.Proofs.SurroundedScan
import PromptTemplate.Proofs.TagFindings
import PromptTemplate.Proofs.TagPlaces
import PromptTemplate.Proofs.TextCuts
import PromptTemplate.Proofs.TextParts
import PromptTemplate.Proofs.ToggleGrammar
import PromptTemplate.Proofs.TomlEntries
import PromptTemplate.Proofs.TomlStrings
import PromptTemplate.Proofs.UndoneSettings
import PromptTemplate.Proofs.UnknownNames
import PromptTemplate.Proofs.ValuePrecedence
import PromptTemplate.Proofs.WrittenDeclarations
import PromptTemplate.Proofs.WrittenNumbers
import PromptTemplate.Rendering
import PromptTemplate.Scan
import PromptTemplate.Span
import PromptTemplate.Text
import PromptTemplate.Text.Blank
import PromptTemplate.Text.Distance
import PromptTemplate.Text.Hexadecimal
import PromptTemplate.Text.Lowercase
import PromptTemplate.Text.Printable
import PromptTemplate.Text.Quoted
import PromptTemplate.Text.Ranges
import PromptTemplate.Text.Utf8
import PromptTemplate.Toggle
import PromptTemplate.Toml
import PromptTemplate.Toml.Layout
import PromptTemplate.Toml.Moment
import PromptTemplate.Toml.Reader
import PromptTemplate.Toml.Strings
import PromptTemplate.Toml.Word
import PromptTemplate.Toml.Writer
import PromptTemplate.Value
import PromptTemplate.ValueMap
import PromptTemplate.ValueMap.Reading
