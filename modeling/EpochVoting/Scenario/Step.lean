import EpochVoting.Audit
import EpochVoting.Deployment.Operation
import EpochVoting.Text.Duration
import EpochVoting.Toml.Value

/-!
# Steps of a scenario

A step is a call on a deployment in which accounts, gauges and tokens go by name.
The foreman makes the administrative calls, and a voter's delegate all that is done
for the voter.  A step that succeeds yields a line on what came of it.
-/

namespace EpochVoting

/-- A step, with the names in it. -/
inductive Step where
  | advanceTime (secs : UInt64)
  | nextEpoch
  | advanceEpoch
  | createGauge (gauge : String) (mints : PerSide String) (enable : Bool)
  | enableGauge (gauge : String)
  | disableGauge (gauge : String)
  | setEpochDuration (secs : UInt64)
  | lock (voter : String) (power : UInt64)
  | delegate (voter chosen : String)
  | fund (account mint : String) (amount : UInt64)
  | accrueFees (gauge : String) (side : FeeSide) (amount : UInt64)
  | setVote (voter gauge : String) (weight : UInt32)
  | snapshot (voter : String)
  | resetVoter (voter : String)
  | ensureEpochGauge (gauge : String)
  | commit (voter gauge : String)
  | voteEpoch (voter : String) (gauges : List String)
  | revert (voter gauge : String)
  | close (voter gauge : String) (epoch : Epoch)
  | cleanEmptyEpochGauge (gauge : String) (epoch : Epoch)
  | syncGauge (gauge : String)
  | syncDisabledGauge (gauge : String)
  | claimFee (voter gauge : String) (epoch : Epoch) (side : FeeSide)
  | createBribe (briber gauge mint : String) (rewardPerEpoch : UInt64) (epochEnd : Epoch)
  | claimBribe (voter : String) (bribe : UInt64) (epoch : Epoch)
  | clawbackBribe (briber : String) (bribe : UInt64) (epoch : Epoch)
  | checkInvariants
deriving DecidableEq

namespace Step

/-- The word for what a step does. -/
def action : Step → String
  | advanceTime .. => "advance_time"
  | nextEpoch => "next_epoch"
  | advanceEpoch => "advance_epoch"
  | createGauge .. => "create_gauge"
  | enableGauge .. => "enable_gauge"
  | disableGauge .. => "disable_gauge"
  | setEpochDuration .. => "set_epoch_duration"
  | lock .. => "lock"
  | delegate .. => "delegate"
  | fund .. => "fund"
  | accrueFees .. => "accrue_fees"
  | setVote .. => "set_vote"
  | snapshot .. => "snapshot"
  | resetVoter .. => "reset_voter"
  | ensureEpochGauge .. => "ensure_epoch_gauge"
  | commit .. => "commit"
  | voteEpoch .. => "vote_epoch"
  | revert .. => "revert"
  | close .. => "close"
  | cleanEmptyEpochGauge .. => "clean_empty_epoch_gauge"
  | syncGauge .. => "sync_gauge"
  | syncDisabledGauge .. => "sync_disabled_gauge"
  | claimFee .. => "claim_fee"
  | createBribe .. => "create_bribe"
  | claimBribe .. => "claim_bribe"
  | clawbackBribe .. => "clawback_bribe"
  | checkInvariants => "check_invariants"

/-- The accounts whose balances a step brings into the report, whether or not it
succeeds. -/
def accounts : Step → List String
  | lock voter _ => [voter]
  | delegate _ chosen => [chosen]
  | fund account _ _ => [account]
  | createBribe briber _ _ _ _ => [briber]
  | _ => []

/-- The tokens whose balances a step brings into the report, whether or not it
succeeds. -/
def mints : Step → List String
  | createGauge _ mints _ => mints.toList
  | fund _ mint _ => [mint]
  | createBribe _ _ mint _ _ => [mint]
  | _ => []

/-! ## Running -/

open Account (named)
open Deployment EpochVoting.Action

/-- Runs a step; yields the line on its outcome. -/
def run : Step → Action String
  | advanceTime secs => do
    let now ← passTime secs
    let due := (← get).engine.factory.nextEpochStartsAt
    let countdown := Text.Duration.countdown now.secs due.secs
    return s!"now {now}, next epoch {countdown}"
  | nextEpoch => do
    let epoch ← Deployment.nextEpoch
    return s!"epoch {epoch}"
  | advanceEpoch => do
    let epoch ← Deployment.advanceEpoch
    return s!"epoch {epoch}"
  | createGauge gauge mints enable => do
    Deployment.createGauge (named gauge) (mints.map named)
    if enable then
      let _ ← setGaugeEnabled none (named gauge) true
    return s!"gauge {gauge} created"
  | enableGauge gauge => do
    let changed ← setGaugeEnabled none (named gauge) true
    return s!"enabled (changed: {changed})"
  | disableGauge gauge => do
    let changed ← setGaugeEnabled none (named gauge) false
    return s!"disabled (changed: {changed})"
  | setEpochDuration secs => do
    changeEngine fun d => d.engine.setEpochDuration d.foreman secs
    return s!"epoch duration {secs}s"
  | lock voter power => do
    Deployment.lock (named voter) power none
    return s!"locked {power}"
  | delegate voter chosen => do
    let _ ← setDelegate (named voter) (named chosen)
    return "delegate set"
  | fund account mint amount => do
    Deployment.fund (named mint) (named account) amount
    return s!"funded {amount}"
  | accrueFees gauge side amount => do
    Deployment.accrueFees (named gauge) side amount
    return s!"accrued {amount} on side {side}"
  | setVote voter gauge weight => do
    let change ← Deployment.setVote none (named voter) (named gauge) weight
    return s!"weight {change.previousWeight} -> {change.weight}, total {change.totalWeight}"
  | snapshot voter => do
    let created ← takeSnapshot (named voter)
    return s!"snapshot created: {created}"
  | resetVoter voter => do
    resetSnapshot (named voter)
    return "snapshot reset"
  | ensureEpochGauge gauge => do
    let created ← ensureCurrentEpochGauge (named gauge)
    return s!"epoch gauge created: {created}"
  | commit voter gauge => do
    match ← Deployment.commit (named voter) (named gauge) with
    | .committed allocated => return s!"allocated {allocated}"
    | .nothingToCommit => return "nothing to commit"
  | voteEpoch voter gauges => do
    let allocated ← Deployment.voteEpoch (named voter) (gauges.map named)
    return s!"allocated {allocated}"
  | revert voter gauge => do
    let released ← Deployment.revert none (named voter) (named gauge) none
    return s!"released {released}"
  | close voter gauge epoch => do
    let closed ← Deployment.close none (named voter) (named gauge) epoch
    return s!"closed {closed}"
  | cleanEmptyEpochGauge gauge epoch => do
    cleanEpochGauge (named gauge) epoch
    return "cleaned"
  | syncGauge gauge => do
    let share ← Deployment.syncGauge (named gauge)
    return s!"share {share}"
  | syncDisabledGauge gauge => do
    Deployment.syncDisabledGauge (named gauge)
    return "share 0"
  | claimFee voter gauge epoch side => do
    let paid ← claimFeeAs none (named voter) (named gauge) epoch side
    return s!"paid {paid}"
  | createBribe briber gauge mint rewardPerEpoch epochEnd => do
    let id ← Deployment.createBribe (named briber) (named gauge) (named mint) rewardPerEpoch
      epochEnd
    return s!"bribe {id}"
  | claimBribe voter bribe epoch => do
    let paid ← claimBribeAs none (named voter) bribe epoch
    return s!"paid {paid}"
  | clawbackBribe briber bribe epoch => do
    let paid ← clawBackBribe (named briber) bribe epoch
    return s!"returned {paid}"
  | checkInvariants => do
    match (← get).audit with
    | .ok () => return "invariants hold"
    | .error violation => throw (VotingError.external violation.message)

/-! ## Reading -/

/-- A side, as the alternative it is. -/
def side? (value : Toml.Value) : Option FeeSide := do
  FeeSide.ofText? (← value.alternative? Toml.Value.isEmptyTable)

/-- Two names, one for each side. -/
def names? (value : Toml.Value) : Option (PerSide String) := do
  match ← value.texts? with
  | [a, b] => return ⟨a, b⟩
  | _ => failure

/-- The step in a table: its action, and what the action calls for.  Other keys mean
nothing. -/
def ofEntries? (entries : Toml.Entries) : Option Step := do
  let text := entries.field? Toml.Value.text?
  let amount := entries.field? Toml.Value.amount?
  let count := entries.field? Toml.Value.count?
  let side := entries.field? side? "side"
  match ← text "action" with
  | "advance_time" => return advanceTime (← amount "secs")
  | "next_epoch" => return nextEpoch
  | "advance_epoch" => return advanceEpoch
  | "create_gauge" =>
    return createGauge (← text "gauge") (← entries.field? names? "mints")
      (← entries.fieldOr? Toml.Value.boolean? "enable" true)
  | "enable_gauge" => return enableGauge (← text "gauge")
  | "disable_gauge" => return disableGauge (← text "gauge")
  | "set_epoch_duration" => return setEpochDuration (← amount "secs")
  | "lock" => return lock (← text "voter") (← amount "power")
  | "delegate" => return delegate (← text "voter") (← text "delegate")
  | "fund" => return fund (← text "account") (← text "mint") (← amount "amount")
  | "accrue_fees" => return accrueFees (← text "gauge") (← side) (← amount "amount")
  | "set_vote" => return setVote (← text "voter") (← text "gauge") (← count "weight")
  | "snapshot" => return snapshot (← text "voter")
  | "reset_voter" => return resetVoter (← text "voter")
  | "ensure_epoch_gauge" => return ensureEpochGauge (← text "gauge")
  | "commit" => return commit (← text "voter") (← text "gauge")
  | "vote_epoch" =>
    return voteEpoch (← text "voter") (← entries.field? Toml.Value.texts? "gauges")
  | "revert" => return revert (← text "voter") (← text "gauge")
  | "close" => return close (← text "voter") (← text "gauge") (← count "epoch")
  | "clean_empty_epoch_gauge" =>
    return cleanEmptyEpochGauge (← text "gauge") (← count "epoch")
  | "sync_gauge" => return syncGauge (← text "gauge")
  | "sync_disabled_gauge" => return syncDisabledGauge (← text "gauge")
  | "claim_fee" =>
    return claimFee (← text "voter") (← text "gauge") (← count "epoch") (← side)
  | "create_bribe" =>
    return createBribe (← text "briber") (← text "gauge") (← text "mint")
      (← amount "reward_per_epoch") (← count "epoch_end")
  | "claim_bribe" =>
    return claimBribe (← text "voter") (← amount "bribe") (← count "epoch")
  | "clawback_bribe" =>
    return clawbackBribe (← text "briber") (← amount "bribe") (← count "epoch")
  | "check_invariants" => return checkInvariants
  | _ => failure

end Step
end EpochVoting
