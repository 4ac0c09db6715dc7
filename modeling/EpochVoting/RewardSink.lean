import EpochVoting.Error

/-!
# Reward sink

The sink is told each gauge's share of the rewards, the power that was committed
to it in the last epoch.  It remembers what it was told, in order, and it can be
out of service.
-/

namespace EpochVoting

/-- One share that the sink was told. -/
structure RewardShare where
  target : Address
  share : UInt64
deriving DecidableEq

/-- The shares told so far, and whether the sink refuses to be told more. -/
structure RewardSink where
  history : List RewardShare
  rejecting : Bool
deriving DecidableEq

namespace RewardSink

/-- The sink that was told nothing. -/
def empty : RewardSink := ⟨[], false⟩

/-- The share last told for a target. -/
def share? (s : RewardSink) (target : Address) : Option UInt64 :=
  (s.history.reverse.find? fun r => r.target == target).map RewardShare.share

/-- Tells the sink a share. -/
def push (s : RewardSink) (target : Address) (share : UInt64) :
    Except ExternalError RewardSink := do
  require (!s.rejecting) (.rejected "reward sink unavailable")
  return { s with history := s.history ++ [⟨target, share⟩] }

end RewardSink
end EpochVoting
