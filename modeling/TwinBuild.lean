import TwinBuild.Main
import TwinBuild.Rehearsal
import TwinBuild.SideBySide
import TwinBuild.Archive.Steps
import TwinBuild.Proofs.Interleaving
import TwinBuild.Proofs.Journal
import TwinBuild.Proofs.Reports
import TwinBuild.Proofs.Attaching
import TwinBuild.Proofs.Builds
import TwinBuild.Proofs.CommandTrace
import TwinBuild.Proofs.Outcome
import TwinBuild.Proofs.Segments
import TwinBuild.Proofs.SourceReplay
import TwinBuild.Proofs.BitcodeFiles
import TwinBuild.Proofs.SideBySide
import TwinBuild.Proofs.ReadableText
import TwinBuild.Proofs.Trees
import TwinBuild.Proofs.FileNames
import TwinBuild.Proofs.HostOperations
import TwinBuild.Proofs.StagedCopies
import TwinBuild.Proofs.ArchiveWriters
import TwinBuild.Proofs.Storing
import TwinBuild.Proofs.References
import TwinBuild.Proofs.ArchiveHistory
import TwinBuild.Proofs.FlagRules
import TwinBuild.Proofs.Conservation
import TwinBuild.Proofs.Rereading
import TwinBuild.Proofs.TemporaryPaths
import TwinBuild.Proofs.CommandEffects
import TwinBuild.Proofs.TemporaryAccount
import TwinBuild.Proofs.TemporaryFiles
import TwinBuild.Proofs.Extensions
import TwinBuild.Proofs.FinalLink
import TwinBuild.Proofs.SourceRows
import TwinBuild.Proofs.Refusals
import TwinBuild.Proofs.WrapperNames
import TwinBuild.Proofs.Attempts
import TwinBuild.Proofs.HiddenObjects
import TwinBuild.Proofs.Respellings
import TwinBuild.Proofs.TwinRuns
import TwinBuild.Proofs.BitcodeFlags
import TwinBuild.Proofs.ScratchDirectory
import TwinBuild.Proofs.JoinedFlags
import TwinBuild.Proofs.CompilerSearch
import TwinBuild.Proofs.ToolchainDirectory
import TwinBuild.Proofs.OrderedSearch
import TwinBuild.Proofs.VisibleBitcode
import TwinBuild.Proofs.FilterPrecedence
