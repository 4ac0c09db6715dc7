import EpochVoting.Gauge

/-!
# Voting weights

Each voter spreads weight units over gauges; only their proportions count.  The
weight book keeps the single weights, each voter's total, and a sequence number
that moves with every change, so that an epoch snapshot can tell whether it was
taken under other weights.
-/

namespace EpochVoting

/-- A voter's totals. -/
structure VoterBook where
  voter : Address
  /-- Sum of the voter's weights. -/
  totalWeight : UInt64
  /-- Number of weight changes, those to the same weight included. -/
  weightChangeSeqno : UInt64
deriving DecidableEq

/-- A voter's weight on a gauge. -/
structure GaugeWeight where
  voter : Address
  gauge : Address
  weight : UInt32
deriving DecidableEq

/-- What a weight change did. -/
structure VoteChange where
  previousWeight : UInt32
  weight : UInt32
  totalWeight : UInt64
  weightChangeSeqno : UInt64
deriving DecidableEq

/-- A voter's totals are filed under the voter. -/
instance : Keyed VoterBook Address := ⟨VoterBook.voter⟩

/-- A weight is filed under the voter and the gauge. -/
instance : Keyed GaugeWeight (Address × Address) := ⟨fun w => (w.voter, w.gauge)⟩

/-- The weights of all voters. -/
structure WeightBook where
  books : Table VoterBook
  weights : Table GaugeWeight
deriving DecidableEq

namespace WeightBook

/-- The book without voters. -/
def empty : WeightBook := ⟨Table.empty, Table.empty⟩

/-- A voter's weight on a gauge; zero if never set. -/
def weight (b : WeightBook) (voter gauge : Address) : UInt32 :=
  ((b.weights.find? (voter, gauge)).map GaugeWeight.weight).getD 0

/-- A voter's total weight; zero for a voter who never voted. -/
def totalWeight (b : WeightBook) (voter : Address) : UInt64 :=
  ((b.books.find? voter).map VoterBook.totalWeight).getD 0

/-- A voter's sequence number; zero for a voter who never voted. -/
def seqno (b : WeightBook) (voter : Address) : UInt64 :=
  ((b.books.find? voter).map VoterBook.weightChangeSeqno).getD 0

/-- Sets a voter's weight on a gauge.  On a disabled gauge the weight may only
fall, so that voters can leave it. -/
def setVote (b : WeightBook) (voter : Address) (gauge : Gauge) (weight : UInt32) :
    Except VotingError (VoteChange × WeightBook) := do
  let previous := b.weight voter gauge.target
  require (gauge.enabled || weight ≤ previous) (.gaugeDisabledCannotVote gauge.target)
  let others ← demand .overflow (Amount.sub? (b.totalWeight voter) previous.toUInt64)
  let total ← demand .overflow (Amount.add? others weight.toUInt64)
  let seqno ← demand .overflow (Amount.add? (b.seqno voter) 1)
  return (
    { previousWeight := previous, weight, totalWeight := total, weightChangeSeqno := seqno },
    { books := b.books.insert { voter, totalWeight := total, weightChangeSeqno := seqno }
      weights := b.weights.insert { voter, gauge := gauge.target, weight } })

/-- The sum of a voter's single weights, a number of any size.  As a weight is below
2^32, only a voter with more than 2^32 weights can have a sum that is no amount;
no table holds so many. -/
def summedWeight (b : WeightBook) (voter : Address) : Nat :=
  ((b.weights.records.filter fun w => w.voter == voter).map fun w => w.weight.toNat).foldr (· + ·) 0

end WeightBook
end EpochVoting
