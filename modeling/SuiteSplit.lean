import SuiteSplit.Main
import SuiteSplit.Proofs.Grouping
import SuiteSplit.Proofs.LoadQueue
import SuiteSplit.Proofs.LinearScan
import SuiteSplit.Proofs.Shares
import SuiteSplit.Proofs.Plan
import SuiteSplit.Proofs.Selection
import SuiteSplit.Proofs.LongestFirst
import SuiteSplit.Proofs.Dominance
import SuiteSplit.Proofs.Calls
import SuiteSplit.Proofs.Growth
import SuiteSplit.Proofs.AllOrNothing
import SuiteSplit.Proofs.Codec
import SuiteSplit.Proofs.FileNames
import SuiteSplit.Proofs.Success
import SuiteSplit.Proofs.FirstRun
import SuiteSplit.Proofs.RecordOrder
import SuiteSplit.Proofs.GreedyRun
import SuiteSplit.Proofs.Balance
import SuiteSplit.Proofs.InputOrder
import SuiteSplit.Proofs.ClassGroups
import SuiteSplit.Proofs.Truncation
import SuiteSplit.Proofs.RacingReader
import SuiteSplit.Proofs.ReadPool
import SuiteSplit.Proofs.WellNamed
import SuiteSplit.Proofs.ReportSearch
import SuiteSplit.Proofs.Removal
import SuiteSplit.Proofs.KeptNames
import SuiteSplit.Proofs.FailingReports
import SuiteSplit.Proofs.ResultsDisk
import SuiteSplit.Proofs.CollectionPolicy
import SuiteSplit.Proofs.Fingerprint
import SuiteSplit.Proofs.CaseOutcome
import SuiteSplit.Proofs.WrappedReports
import SuiteSplit.Proofs.AppendedReports
import SuiteSplit.Proofs.FaithfulRun
import SuiteSplit.Proofs.Restoring
import SuiteSplit.Proofs.GroupCommand
import SuiteSplit.Proofs.ExactTotals
import SuiteSplit.Proofs.BatchHistory
import SuiteSplit.Proofs.Lines
import SuiteSplit.Proofs.ClassLists
import SuiteSplit.Proofs.SelectionPatterns
import SuiteSplit.Proofs.Loading
import SuiteSplit.Proofs.TomlIntegers
import SuiteSplit.Proofs.Validation
import SuiteSplit.Proofs.ReportFiles
import SuiteSplit.Proofs.SecondsCodec
import SuiteSplit.Proofs.BriefDuration
import SuiteSplit.Proofs.ReportNames
