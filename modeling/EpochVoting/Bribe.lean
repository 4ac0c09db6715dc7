import EpochVoting.Commitment

/-!
# Bribes

A briber escrows the same reward for each epoch of a range.  Every epoch of the
range, once it is over, is settled in one of two ways: the gauge's voters claim
their parts of the reward, or, if nobody voted, the briber takes it back.

The checks compute a settlement without writing it; the caller moves the tokens
and then has it recorded.
-/

namespace EpochVoting

/-- A reward for the voters of a gauge in a range of epochs. -/
structure Bribe where
  id : UInt64
  gauge : Address
  briber : Address
  mint : Address
  rewardPerEpoch : UInt64
  /-- First rewarded epoch. -/
  epochStart : Epoch
  /-- First epoch no longer rewarded. -/
  epochEnd : Epoch
  claimedAmount : UInt64
  clawedBackAmount : UInt64
deriving DecidableEq

/-- A voter's claim on a bribe's reward of an epoch. -/
structure BribeClaim where
  voter : Address
  bribe : UInt64
  epoch : Epoch
  amount : UInt64
deriving DecidableEq

/-- The return of a bribe's reward of an epoch to the briber. -/
structure BribeClawback where
  bribe : UInt64
  epoch : Epoch
  amount : UInt64
deriving DecidableEq

/-- A bribe is filed under its id. -/
instance : Keyed Bribe UInt64 := ⟨Bribe.id⟩

/-- A claim is filed under the voter, the bribe and the epoch. -/
instance : Keyed BribeClaim (Address × UInt64 × Epoch) :=
  ⟨fun c => (c.voter, c.bribe, c.epoch)⟩

instance : Std.TransOrd (Address × UInt64 × Epoch) :=
  inferInstance

instance : Std.LawfulEqOrd (Address × UInt64 × Epoch) :=
  inferInstance

/-- A clawback is filed under the bribe and the epoch. -/
instance : Keyed BribeClawback (UInt64 × Epoch) := ⟨fun c => (c.bribe, c.epoch)⟩

namespace Bribe

/-- The number of rewarded epochs. -/
def numEpochs (b : Bribe) : UInt32 :=
  Epoch.countUntil b.epochStart b.epochEnd

/-- The amount escrowed when the bribe is created. -/
def totalEscrow (b : Bribe) : Except VotingError UInt64 :=
  demand .overflow (Amount.mul? b.rewardPerEpoch b.numEpochs.toUInt64)

/-- Whether the epoch is rewarded. -/
def covers (b : Bribe) (epoch : Epoch) : Bool :=
  b.epochStart ≤ epoch && epoch < b.epochEnd

/-- The account that holds the escrow. -/
def vault (b : Bribe) : Address :=
  Account.bribeVault b.id

/-- The escrow that has not been settled either way. -/
def remaining (b : Bribe) : Except VotingError UInt64 := do
  let total ← b.totalEscrow
  let unclaimed ← demand .overflow (Amount.sub? total b.claimedAmount)
  demand .overflow (Amount.sub? unclaimed b.clawedBackAmount)

/-- Refuses an epoch that is not rewarded. -/
def requireCovers (b : Bribe) (epoch : Epoch) : Except VotingError Unit :=
  require (b.covers epoch) (.invalidRange b.epochStart b.epochEnd)

/-- A new bribe that starts in the current epoch.  The range may not be empty, the
reward not zero, and the whole escrow must be an amount. -/
def prepare (id : UInt64) (gauge briber mint : Address) (rewardPerEpoch : UInt64)
    (currentEpoch epochEnd : Epoch) : Except VotingError Bribe := do
  require (currentEpoch < epochEnd) (.invalidRange currentEpoch epochEnd)
  require (rewardPerEpoch != 0) .zeroReward
  let b : Bribe := {
    id, gauge, briber, mint, rewardPerEpoch
    epochStart := currentEpoch
    epochEnd
    claimedAmount := 0
    clawedBackAmount := 0 }
  let _ ← b.totalEscrow
  return b

end Bribe

/-- All bribes and their settlements. -/
structure BribeLedger where
  bribes : Table Bribe
  claims : Table BribeClaim
  clawbacks : Table BribeClawback
deriving DecidableEq

namespace BribeLedger

/-- The ledger without bribes. -/
def empty : BribeLedger := ⟨Table.empty, Table.empty, Table.empty⟩

/-- The ledger with a bribe added. -/
def insert (l : BribeLedger) (b : Bribe) : BribeLedger :=
  { l with bribes := l.bribes.insert b }

/-- The bribe with an id. -/
def get (l : BribeLedger) (id : UInt64) : Except VotingError Bribe :=
  demand (.bribeNotFound id) (l.bribes.find? id)

/-- Whether a voter has claimed a bribe's reward of an epoch. -/
def isClaimed (l : BribeLedger) (voter : Address) (id : UInt64) (epoch : Epoch) : Bool :=
  l.claims.contains (voter, id, epoch)

/-- Whether a bribe's reward of an epoch has gone back to the briber. -/
def isClawedBack (l : BribeLedger) (id : UInt64) (epoch : Epoch) : Bool :=
  l.clawbacks.contains (id, epoch)

/-- A voter's part of the reward of an epoch, which is over.  `totalPower` is the
power of the bribed gauge in that epoch, zero if there is no record, and
`allocation` the voter's part of it. -/
def checkClaim (l : BribeLedger) (voter : Address) (id : UInt64) (epoch : Epoch)
    (totalPower : UInt64) (allocation : Option UInt64) :
    Except VotingError BribeClaim := do
  let b ← l.get id
  b.requireCovers epoch
  require (!l.isClaimed voter id epoch) .alreadyClaimed
  require (totalPower != 0) .nothingToClaim
  let allocated ← demand (.notCommitted voter b.gauge epoch) allocation
  let amount ← demand .castFailed (Amount.share? b.rewardPerEpoch allocated totalPower)
  let _ ← demand .overflow (Amount.add? b.claimedAmount amount)
  return { voter, bribe := id, epoch, amount }

/-- Writes a claim. -/
def recordClaim (l : BribeLedger) (claim : BribeClaim) : Except VotingError BribeLedger := do
  let b ← l.get claim.bribe
  let total ← demand .overflow (Amount.add? b.claimedAmount claim.amount)
  return { l with
    bribes := l.bribes.insert { b with claimedAmount := total }
    claims := l.claims.insert claim }

/-- The return of the reward of an epoch, which is over and in which the bribed
gauge had no power. -/
def checkClawback (l : BribeLedger) (authority : Address) (id : UInt64) (epoch : Epoch)
    (totalPower : UInt64) : Except VotingError BribeClawback := do
  let b ← l.get id
  require (authority == b.briber) (.notBriber id)
  b.requireCovers epoch
  require (totalPower == 0) (.epochWasVoted epoch)
  require (!l.isClawedBack id epoch) .alreadyClaimed
  let _ ← demand .overflow (Amount.add? b.clawedBackAmount b.rewardPerEpoch)
  return { bribe := id, epoch, amount := b.rewardPerEpoch }

/-- Writes a clawback. -/
def recordClawback (l : BribeLedger) (clawback : BribeClawback) :
    Except VotingError BribeLedger := do
  let b ← l.get clawback.bribe
  let total ← demand .overflow (Amount.add? b.clawedBackAmount clawback.amount)
  return { l with
    bribes := l.bribes.insert { b with clawedBackAmount := total }
    clawbacks := l.clawbacks.insert clawback }

/-- The epochs of a bribe that have been settled, by claims or by a clawback, in
increasing order. -/
def settledEpochs (l : BribeLedger) (id : UInt64) : List Epoch :=
  let claimed := (l.claims.records.filter fun c => c.bribe == id).map BribeClaim.epoch
  let returned := (l.clawbacks.records.filter fun c => c.bribe == id).map BribeClawback.epoch
  ((claimed ++ returned).mergeSort fun a b => a ≤ b).eraseDups

end BribeLedger
end EpochVoting
