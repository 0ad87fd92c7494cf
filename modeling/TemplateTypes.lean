import TemplateTypes.Interpreter.Helper
import TemplateTypes.Main
import TemplateTypes.QueryCommand
import TemplateTypes.StubCommand
import TemplateTypes.Proofs.TerminatedLines
import TemplateTypes.Proofs.LineEnds
import TemplateTypes.Proofs.Trimming
import TemplateTypes.Proofs.CommentBlocks
import TemplateTypes.Proofs.Attachment
import TemplateTypes.Proofs.LineKinds
import TemplateTypes.Proofs.BlockSummary
import TemplateTypes.Proofs.BlockContents
import TemplateTypes.Proofs.InsertionHistory
import TemplateTypes.Proofs.StubLines
import TemplateTypes.Proofs.StubTexts
import TemplateTypes.Proofs.Identifiers
import TemplateTypes.Proofs.StubLookup
import TemplateTypes.Proofs.ProbeContext
import TemplateTypes.Proofs.ProbeCursor
import TemplateTypes.Proofs.DocstringErasure
import TemplateTypes.Proofs.StubRereading
import TemplateTypes.Proofs.ReadableStubs
import TemplateTypes.Proofs.CanonicalStubs
import TemplateTypes.Proofs.StubGrammar
import TemplateTypes.Proofs.StubUpdates
import TemplateTypes.Proofs.BlockSeams
import TemplateTypes.Proofs.BlockGrammar
import TemplateTypes.Proofs.BlockLayout
import TemplateTypes.Proofs.OneSidedLines
import TemplateTypes.Proofs.SignatureLines
import TemplateTypes.Proofs.MacroTemplates
import TemplateTypes.Proofs.JsonRoundTrip
import TemplateTypes.Proofs.JsonLayout
import TemplateTypes.Proofs.QueryAnswers
import TemplateTypes.Proofs.PipeSteps
import TemplateTypes.Proofs.PipeExchanges
import TemplateTypes.Proofs.RepeatedAnswers
import TemplateTypes.Proofs.ReportReading
import TemplateTypes.Proofs.PathParts
import TemplateTypes.Proofs.Walking
import TemplateTypes.Proofs.MakingDirectories
import TemplateTypes.Proofs.DirectoryContents
import TemplateTypes.Proofs.PathOrder
import TemplateTypes.Proofs.TemplateExpansion
import TemplateTypes.Proofs.FileRendering
import TemplateTypes.Proofs.RenderingRuns
import TemplateTypes.Proofs.RenderingRoutes
import TemplateTypes.Proofs.StubRuns
import TemplateTypes.Proofs.OutputDirectory
import TemplateTypes.Proofs.OutputCollisions
import TemplateTypes.Proofs.KeptTemplates
import TemplateTypes.Proofs.OperandOrder
