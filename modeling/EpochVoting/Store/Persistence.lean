import EpochVoting.Engine
import EpochVoting.Store.Basic
import EpochVoting.Store.Codec

/-!
# Saving and loading an engine

Every record is stored under its kind and the written form of its key; the factory
record is a setting.  Saving replaces all records of the store.  Loading reads them
back, kind by kind in the order of their keys, and files each record under the key
that it carries itself.
-/

namespace EpochVoting

open Std

namespace Codec

/-- Factory records. -/
def factory : Codec Factory :=
  (address.pair (word64.pair (word32.pair (timestamp.pair word64)))).transport
    (fun (foreman, epochDurationSecs, currentEpoch, nextEpochStartsAt, bribeCount) =>
      { foreman, epochDurationSecs, currentEpoch, nextEpochStartsAt, bribeCount })
    fun f =>
      (f.foreman, f.epochDurationSecs, f.currentEpoch, f.nextEpochStartsAt, f.bribeCount)

/-- Fee counters. -/
def feeCounter : Codec FeeCounter :=
  (address.pair (word64.pair (word64.pair (word64.pair word64)))).transport
    (fun (mint, cumulativeAccrued, cumulativeClaimed, lastPoolTotal, prunedAccrued) =>
      { mint, cumulativeAccrued, cumulativeClaimed, lastPoolTotal, prunedAccrued })
    fun c =>
      (c.mint, c.cumulativeAccrued, c.cumulativeClaimed, c.lastPoolTotal, c.prunedAccrued)

/-- Gauges. -/
def gauge : Codec Gauge :=
  (address.pair (bool.pair feeCounter.perSide)).transport
    (fun (target, enabled, fees) => { target, enabled, fees })
    fun g => (g.target, g.enabled, g.fees)

/-- Voters' totals. -/
def voterBook : Codec VoterBook :=
  (address.pair (word64.pair word64)).transport
    (fun (voter, totalWeight, weightChangeSeqno) =>
      { voter, totalWeight, weightChangeSeqno })
    fun b => (b.voter, b.totalWeight, b.weightChangeSeqno)

/-- Weights. -/
def gaugeWeight : Codec GaugeWeight :=
  (address.pair (address.pair word32)).transport
    (fun (voter, gauge, weight) => { voter, gauge, weight })
    fun w => (w.voter, w.gauge, w.weight)

/-- Gauges' records of an epoch. -/
def epochGauge : Codec EpochGauge :=
  (address.pair (word32.pair (word64.pair (word64.pair word64.perSide)))).transport
    (fun (gauge, epoch, totalPower, closedPower, accruedFees) =>
      { gauge, epoch, totalPower, closedPower, accruedFees })
    fun g => (g.gauge, g.epoch, g.totalPower, g.closedPower, g.accruedFees)

/-- Claimed flags. -/
def feeClaimFlags : Codec FeeClaimFlags :=
  (address.pair bool.perSide).transport
    (fun (gauge, claimed) => { gauge, claimed })
    fun f => (f.gauge, f.claimed)

/-- Closed allocations. -/
def closedAllocation : Codec ClosedAllocation :=
  (address.pair word64).transport
    (fun (gauge, amount) => { gauge, amount })
    fun a => (a.gauge, a.amount)

/-- Snapshots. -/
def snapshot : Codec Snapshot :=
  (address.pair (word32.pair (word64.pair (word64.pair (word64.pair
    (word64.pair (feeClaimFlags.table.pair closedAllocation.table))))))).transport
    (fun (voter, epoch, votingPower, weightChangeSeqno, allocatedPower, closedPower,
        feeClaims, closedAllocations) =>
      { voter, epoch, votingPower, weightChangeSeqno, allocatedPower, closedPower,
        feeClaims, closedAllocations })
    fun s =>
      (s.voter, s.epoch, s.votingPower, s.weightChangeSeqno, s.allocatedPower,
        s.closedPower, s.feeClaims, s.closedAllocations)

/-- Commitments. -/
def epochVote : Codec EpochVote :=
  (address.pair (address.pair (word32.pair word64))).transport
    (fun (voter, gauge, epoch, allocatedPower) => { voter, gauge, epoch, allocatedPower })
    fun v => (v.voter, v.gauge, v.epoch, v.allocatedPower)

/-- Bribes. -/
def bribe : Codec Bribe :=
  (word64.pair (address.pair (address.pair (address.pair (word64.pair (word32.pair
    (word32.pair (word64.pair word64)))))))).transport
    (fun (id, gauge, briber, mint, rewardPerEpoch, epochStart, epochEnd, claimedAmount,
        clawedBackAmount) =>
      { id, gauge, briber, mint, rewardPerEpoch, epochStart, epochEnd, claimedAmount,
        clawedBackAmount })
    fun b =>
      (b.id, b.gauge, b.briber, b.mint, b.rewardPerEpoch, b.epochStart, b.epochEnd,
        b.claimedAmount, b.clawedBackAmount)

/-- Claims on bribes. -/
def bribeClaim : Codec BribeClaim :=
  (address.pair (word64.pair (word32.pair word64))).transport
    (fun (voter, bribe, epoch, amount) => { voter, bribe, epoch, amount })
    fun c => (c.voter, c.bribe, c.epoch, c.amount)

/-- Clawbacks of bribes. -/
def bribeClawback : Codec BribeClawback :=
  (word64.pair (word32.pair word64)).transport
    (fun (bribe, epoch, amount) => { bribe, epoch, amount })
    fun c => (c.bribe, c.epoch, c.amount)

end Codec

/-- How the records of a kind are stored: their kind, and how their keys and they
themselves are written. -/
structure Layout (ρ κ : Type) where
  kind : RecordKind
  keyCodec : Codec κ
  codec : Codec ρ

namespace Layout

variable {ρ κ : Type} [Keyed ρ κ] [Ord κ]

/-- The rows of a table. -/
def rows (l : Layout ρ κ) (t : Table ρ) : List Row :=
  t.records.map fun r => ⟨l.kind, l.keyCodec.write (Keyed.key r), l.codec.write r⟩

/-- The table of a store's records of the kind. -/
def load [TransOrd κ] [LawfulEqOrd κ] (l : Layout ρ κ) (s : Store) :
    Except VotingError (Table ρ) := do
  let records ← (s.rowsOf l.kind).mapM fun row =>
    (l.codec.decode row.value).mapError VotingError.serialization
  return Table.ofList records

/-- Gauges by target. -/
def gauges : Layout Gauge Address := ⟨.gauges, .address, .gauge⟩

/-- Voters' totals by voter. -/
def voterBooks : Layout VoterBook Address := ⟨.voterBooks, .address, .voterBook⟩

/-- Weights by voter and gauge. -/
def gaugeWeights : Layout GaugeWeight (Address × Address) :=
  ⟨.gaugeWeights, .pair .address .address, .gaugeWeight⟩

/-- Gauges' records of an epoch by gauge and epoch. -/
def epochGauges : Layout EpochGauge (Address × Epoch) :=
  ⟨.epochGauges, .pair .address .word32, .epochGauge⟩

/-- Snapshots by voter and epoch. -/
def snapshots : Layout Snapshot (Address × Epoch) :=
  ⟨.epochVoters, .pair .address .word32, .snapshot⟩

/-- Commitments by voter, gauge and epoch. -/
def votes : Layout EpochVote (Address × Address × Epoch) :=
  ⟨.epochVotes, .pair .address (.pair .address .word32), .epochVote⟩

/-- Bribes by id. -/
def bribes : Layout Bribe UInt64 := ⟨.bribes, .word64, .bribe⟩

/-- Claims by voter, bribe and epoch. -/
def bribeClaims : Layout BribeClaim (Address × UInt64 × Epoch) :=
  ⟨.bribeClaims, .pair .address (.pair .word64 .word32), .bribeClaim⟩

/-- Clawbacks by bribe and epoch. -/
def bribeClawbacks : Layout BribeClawback (UInt64 × Epoch) :=
  ⟨.bribeClawbacks, .pair .word64 .word32, .bribeClawback⟩

end Layout

namespace Engine

/-- The name of the setting that holds the factory record. -/
def factorySetting : Bytes :=
  Bytes.ofText "factory"

/-- All records of an engine but the factory. -/
def rows (e : Engine) : List Row :=
  Layout.gauges.rows e.registry.gauges ++
    Layout.voterBooks.rows e.weights.books ++
    Layout.gaugeWeights.rows e.weights.weights ++
    Layout.epochGauges.rows e.commitments.epochGauges ++
    Layout.snapshots.rows e.commitments.snapshots ++
    Layout.votes.rows e.commitments.votes ++
    Layout.bribes.rows e.bribes.bribes ++
    Layout.bribeClaims.rows e.bribes.claims ++
    Layout.bribeClawbacks.rows e.bribes.clawbacks

/-- The store with its records replaced by those of an engine. -/
def save (e : Engine) (s : Store) : Store :=
  let cleared := RecordKind.all.foldl Store.clear s
  let settled := cleared.putSetting factorySetting (Codec.factory.write e.factory)
  e.rows.foldl (fun s row => s.put row.kind row.rowKey row.value) settled

/-- The engine that a store holds. -/
def load (s : Store) : Except VotingError Engine := do
  let bytes ← demand (.store (.notFound "factory")) (s.setting? factorySetting)
  let factory ← (Codec.factory.decode bytes).mapError VotingError.serialization
  let gauges ← Layout.gauges.load s
  let books ← Layout.voterBooks.load s
  let weights ← Layout.gaugeWeights.load s
  let epochGauges ← Layout.epochGauges.load s
  let snapshots ← Layout.snapshots.load s
  let votes ← Layout.votes.load s
  let bribes ← Layout.bribes.load s
  let claims ← Layout.bribeClaims.load s
  let clawbacks ← Layout.bribeClawbacks.load s
  return {
    factory
    registry := ⟨gauges⟩
    weights := { books, weights }
    commitments := { epochGauges, snapshots, votes }
    bribes := { bribes, claims, clawbacks } }

end Engine
end EpochVoting
