import SourceRecovery.Directory
import SourceRecovery.Json.Printer
import SourceRecovery.Proofs.ArtifactReading
import SourceRecovery.Proofs.ListingRoundTrip
import SourceRecovery.Proofs.ObjectReading
import SourceRecovery.Proofs.RunOutcome
import SourceRecovery.Script.Host
import SourceRecovery.Settings.Printer
import SourceRecovery.Settings.Reader
import SourceRecovery.Proofs.NameLookup
import SourceRecovery.Proofs.BodyExecution
import SourceRecovery.Proofs.LineBlocks
import SourceRecovery.Proofs.ItemRanges
import SourceRecovery.Proofs.FlaggedLines
import SourceRecovery.Proofs.RepairPasses
import SourceRecovery.Proofs.RecoveryReports
import SourceRecovery.Proofs.VisitOrder
import SourceRecovery.Proofs.ModuleNesting
import SourceRecovery.Proofs.AgentGain
import SourceRecovery.Proofs.UnfilledGaps
import SourceRecovery.Proofs.ReplyOrder
import SourceRecovery.Proofs.ConsumedBytes
import SourceRecovery.Proofs.ConstantDepth
import SourceRecovery.Proofs.DirectoryRun
import SourceRecovery.Proofs.DisplayCode
import SourceRecovery.Proofs.AssignmentRoundTrip
import SourceRecovery.Proofs.AppendedConstants
import SourceRecovery.Proofs.LineEdits
import SourceRecovery.Proofs.InstructionWords
import SourceRecovery.Proofs.RecoveredKeys
import SourceRecovery.Proofs.IntegerReading
import SourceRecovery.Proofs.ClassMembers
import SourceRecovery.Proofs.QualifiedNames
import SourceRecovery.Proofs.BackendChoice
import SourceRecovery.Proofs.TextMargins
import SourceRecovery.Proofs.CodeExtraction
import SourceRecovery.Proofs.LeftoverMarkers
import SourceRecovery.Proofs.HeaderLines
import SourceRecovery.Proofs.ParameterLists
import SourceRecovery.Proofs.PromptFilling
import SourceRecovery.Proofs.FlaggedHeaders
import SourceRecovery.Proofs.DictionaryUpdates
