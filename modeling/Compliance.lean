import Compliance.Main
import Compliance.Proofs.AbsentDocuments
import Compliance.Proofs.Attempts
import Compliance.Proofs.BelowRoot
import Compliance.Proofs.BuiltInConfig
import Compliance.Proofs.CompactText
import Compliance.Proofs.CompositeIds
import Compliance.Proofs.ContentChanges
import Compliance.Proofs.CorpusHistories
import Compliance.Proofs.DigitRuns
import Compliance.Proofs.DiskAndMemory
import Compliance.Proofs.DiskEdits
import Compliance.Proofs.EmptyEvidence
import Compliance.Proofs.ErrorTexts
import Compliance.Proofs.EvidenceEdits
import Compliance.Proofs.EvidenceScans
import Compliance.Proofs.ExitStatus
import Compliance.Proofs.Families
import Compliance.Proofs.FormatAgreement
import Compliance.Proofs.GateRefinement
import Compliance.Proofs.JsonMembers
import Compliance.Proofs.LedgerFindings
import Compliance.Proofs.LedgerItems
import Compliance.Proofs.MissingPaths
import Compliance.Proofs.NamedValues
import Compliance.Proofs.NumberEnds
import Compliance.Proofs.NumberIds
import Compliance.Proofs.NumberSpellings
import Compliance.Proofs.OutcomeRecords
import Compliance.Proofs.PathWalks
import Compliance.Proofs.PipelineRuns
import Compliance.Proofs.PointedArrays
import Compliance.Proofs.PointedKeys
import Compliance.Proofs.QuotedNames
import Compliance.Proofs.ReaderSteps
import Compliance.Proofs.RefusedConfigs
import Compliance.Proofs.ReportNames
import Compliance.Proofs.ReportStreams
import Compliance.Proofs.RequiredPaths
import Compliance.Proofs.RequirementVerdicts
import Compliance.Proofs.RunAccounts
import Compliance.Proofs.SchemaFindings
import Compliance.Proofs.Sessions
import Compliance.Proofs.SingleLines
import Compliance.Proofs.SourceAgreement
import Compliance.Proofs.SpelledConfigs
import Compliance.Proofs.SpelledValues
import Compliance.Proofs.StableVerdicts
import Compliance.Proofs.StandalonePrograms
import Compliance.Proofs.StoredDocuments
import Compliance.Proofs.StructuredDocuments
import Compliance.Proofs.TextLines
import Compliance.Proofs.UnbrokenLines
import Compliance.Proofs.UninspectedKeys
import Compliance.Proofs.WorkingDirectory
import Compliance.Proofs.WrittenJson
import Compliance.Proofs.WrittenParts
import Compliance.Source.Memory
