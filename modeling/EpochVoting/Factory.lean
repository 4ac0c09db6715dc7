import EpochVoting.Error

/-!
# The factory record

One record per deployment holds the current epoch, the time from which it may be
left, the foreman who administers the gauges, and the number of bribes created.
Advancing needs no permission and moves the due time by the epoch's duration, not
to the time of the call, so a late advance earns no extra time.
-/

namespace EpochVoting

/-- The settings a factory is created with. -/
structure FactoryParams where
  /-- Length of one epoch in seconds. -/
  epochDurationSecs : UInt64
  /-- When the first epoch began. -/
  genesis : Timestamp
deriving DecidableEq

namespace FactoryParams

/-- An epoch of one week. -/
def defaultEpochDurationSecs : UInt64 := 604800

/-- Weekly epochs from time zero. -/
def default : FactoryParams :=
  ⟨defaultEpochDurationSecs, Timestamp.zero⟩

end FactoryParams

/-- The clock and administration record of a deployment. -/
structure Factory where
  /-- May enable and disable gauges and change the settings. -/
  foreman : Address
  epochDurationSecs : UInt64
  currentEpoch : Epoch
  nextEpochStartsAt : Timestamp
  /-- Number of bribes ever created; the next bribe takes it as its id. -/
  bribeCount : UInt64
deriving DecidableEq

namespace Factory

/-- A factory in its first epoch. -/
def create (foreman : Address) (params : FactoryParams) : Except VotingError Factory := do
  require (params.epochDurationSecs != 0) .invalidEpochDuration
  let due ← demand .overflow (params.genesis.add? params.epochDurationSecs)
  return {
    foreman
    epochDurationSecs := params.epochDurationSecs
    currentEpoch := Epoch.first
    nextEpochStartsAt := due
    bribeCount := 0 }

/-- The factory in its next epoch, once that is due. -/
def advance (f : Factory) (now : Timestamp) : Except VotingError Factory := do
  require (f.nextEpochStartsAt.secs ≤ now.secs) (.epochNotDue now f.nextEpochStartsAt)
  let epoch ← demand .overflow f.currentEpoch.next?
  let due ← demand .overflow (f.nextEpochStartsAt.add? f.epochDurationSecs)
  return { f with currentEpoch := epoch, nextEpochStartsAt := due }

/-- Refuses everyone but the foreman. -/
def requireForeman (f : Factory) (authority : Address) : Except VotingError Unit :=
  require (authority == f.foreman) .notForeman

/-- Hands the administration to another account. -/
def setForeman (f : Factory) (authority newForeman : Address) :
    Except VotingError Factory := do
  f.requireForeman authority
  return { f with foreman := newForeman }

/-- Changes the duration of the epochs to come.  The due time of the current one
stays. -/
def setEpochDuration (f : Factory) (authority : Address) (secs : UInt64) :
    Except VotingError Factory := do
  f.requireForeman authority
  require (secs != 0) .invalidEpochDuration
  return { f with epochDurationSecs := secs }

/-- Whether the epoch is the one being voted on. -/
def isLive (f : Factory) (epoch : Epoch) : Bool :=
  epoch == f.currentEpoch

/-- Whether the epoch is over, so that its results are final. -/
def isElapsed (f : Factory) (epoch : Epoch) : Bool :=
  epoch < f.currentEpoch

/-- Refuses every epoch but the current one. -/
def requireLive (f : Factory) (epoch : Epoch) : Except VotingError Unit :=
  require (f.isLive epoch) (.wrongEpoch epoch f.currentEpoch)

/-- Refuses an epoch that is not over. -/
def requireElapsed (f : Factory) (epoch : Epoch) : Except VotingError Unit :=
  require (f.isElapsed epoch) (.epochStillOpen epoch f.currentEpoch)

/-- The epoch before the current one, if it is numbered. -/
def previousEpoch? (f : Factory) : Option Epoch :=
  if Epoch.first < f.currentEpoch then some (f.currentEpoch - 1) else none

/-- The id of the next bribe.  It is refused once the counter could not pass it. -/
def nextBribeId (f : Factory) : Except VotingError UInt64 := do
  let _ ← demand .overflow (Amount.add? f.bribeCount 1)
  return f.bribeCount

/-- Hands out the id of the next bribe. -/
def takeBribeId (f : Factory) : Except VotingError (UInt64 × Factory) := do
  let id ← f.nextBribeId
  return (id, { f with bribeCount := id + 1 })

end Factory
end EpochVoting
