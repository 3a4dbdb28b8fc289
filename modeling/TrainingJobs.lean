import TrainingJobs.Api.Recorder
import TrainingJobs.Json.Reader
import TrainingJobs.Main
import TrainingJobs.Operator.Stage
import TrainingJobs.Proofs.RestartBudget
import TrainingJobs.Proofs.SteadyState
import TrainingJobs.Proofs.SuccessVerdict
import TrainingJobs.Proofs.VerdictSurvival
import TrainingJobs.Proofs.Names
import TrainingJobs.Proofs.Recognition
import TrainingJobs.Proofs.Housing
import TrainingJobs.Proofs.Separation
import TrainingJobs.Proofs.Arrangement
import TrainingJobs.Proofs.Supply
import TrainingJobs.Proofs.Convergence
import TrainingJobs.Proofs.Interleaving
import TrainingJobs.Proofs.Anatomy
import TrainingJobs.Proofs.Deliveries
import TrainingJobs.Proofs.Bookkeeping
import TrainingJobs.Proofs.Standing
import TrainingJobs.Proofs.GateSafety
import TrainingJobs.Proofs.Reachability
import TrainingJobs.Proofs.Finality
import TrainingJobs.Proofs.Leftovers
import TrainingJobs.Proofs.QuietEnd
import TrainingJobs.Proofs.WatchReports
import TrainingJobs.Proofs.Meeting
import TrainingJobs.Proofs.Selection
import TrainingJobs.Proofs.Completion
import TrainingJobs.Proofs.Trace
import TrainingJobs.Proofs.Ledger
import TrainingJobs.Proofs.SlotPlan
import TrainingJobs.Proofs.MeetingPlace
import TrainingJobs.Proofs.Members
import TrainingJobs.Proofs.MergePatch
import TrainingJobs.Proofs.StatusWrites
import TrainingJobs.Proofs.Instants
import TrainingJobs.Proofs.RoundTrip
import TrainingJobs.Proofs.History
import TrainingJobs.Proofs.Aggregation
import TrainingJobs.Proofs.OldFailures
import TrainingJobs.Proofs.CleanPolicy
import TrainingJobs.Proofs.WorldSize
import TrainingJobs.Proofs.Defaulting
import TrainingJobs.Proofs.Environment
import TrainingJobs.Proofs.Transitions
import TrainingJobs.Proofs.Timers
import TrainingJobs.Proofs.Gang
import TrainingJobs.Proofs.Sorting
import TrainingJobs.Proofs.Retrying
import TrainingJobs.Proofs.Waiting
import TrainingJobs.Proofs.Numbering
import TrainingJobs.Proofs.Keys
