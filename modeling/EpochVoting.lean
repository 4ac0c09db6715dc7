import EpochVoting.Main
import EpochVoting.Store.Persistence
import EpochVoting.Proofs.Payments
import EpochVoting.Proofs.Checks
import EpochVoting.Proofs.Step
import EpochVoting.Proofs.Settlement
import EpochVoting.Proofs.Perform
import EpochVoting.Proofs.Power
import EpochVoting.Proofs.Consistency
import EpochVoting.Proofs.Allocations
import EpochVoting.Proofs.Change
import EpochVoting.Proofs.Stakes
import EpochVoting.Proofs.Finality
import EpochVoting.Proofs.FeeFlags
import EpochVoting.Proofs.FeeBooks
import EpochVoting.Proofs.Shares
import EpochVoting.Proofs.BribeBooks
import EpochVoting.Proofs.BribeEpochs
import EpochVoting.Proofs.Run
import EpochVoting.Proofs.Vaults
import EpochVoting.Proofs.Solvency
import EpochVoting.Proofs.Audit
import EpochVoting.Proofs.VaultBalances
import EpochVoting.Proofs.CaptureFailure
import EpochVoting.Proofs.Atomicity
import EpochVoting.Proofs.ElapsedEpochs
import EpochVoting.Proofs.History
import EpochVoting.Proofs.SnapshotHistory
import EpochVoting.Proofs.Claims
import EpochVoting.Proofs.Settling
import EpochVoting.Proofs.Codecs
import EpochVoting.Proofs.Saving
import EpochVoting.Proofs.Persistence
import EpochVoting.Proofs.Growth
import EpochVoting.Proofs.ExactlyOnce
import EpochVoting.Proofs.Lockstep
import EpochVoting.Proofs.Swept
import EpochVoting.Proofs.SweptCalls
import EpochVoting.Proofs.SweptActions
import EpochVoting.Proofs.CallPayments
import EpochVoting.Proofs.GarbageCollection
import EpochVoting.Proofs.Commuting
import EpochVoting.Proofs.Due
import EpochVoting.Proofs.SettlementOrder
import EpochVoting.Proofs.Links
import EpochVoting.Proofs.GuardedCalls
import EpochVoting.Proofs.Losses
import EpochVoting.Proofs.Authority
import EpochVoting.Proofs.PoolSteps
import EpochVoting.Proofs.Captures
import EpochVoting.Proofs.SameVoter
import EpochVoting.Proofs.VoterCalls
import EpochVoting.Proofs.Interleavings
import EpochVoting.Proofs.SpareChecks
import EpochVoting.Proofs.DisabledGauges
import EpochVoting.Proofs.CountedVote
import EpochVoting.Proofs.CountedCalls
import EpochVoting.Proofs.DelayedUndo
import EpochVoting.Proofs.Footprints
import EpochVoting.Proofs.Isolation
import EpochVoting.Proofs.Payouts
import EpochVoting.Proofs.AuditGaps
import EpochVoting.Proofs.Counting
import EpochVoting.Proofs.AuditOrder
import EpochVoting.Proofs.WholeEpochs
import EpochVoting.Proofs.Cadence
import EpochVoting.Proofs.Supply
import EpochVoting.Proofs.Replays
import EpochVoting.Proofs.Holders
import EpochVoting.Proofs.ReportBalances
import EpochVoting.Proofs.FailedSteps
import EpochVoting.Proofs.LockPower
import EpochVoting.Proofs.DerivedAccounts
import EpochVoting.Proofs.AddressText
