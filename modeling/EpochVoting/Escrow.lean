import EpochVoting.Error
import EpochVoting.Table

/-!
# Escrow

The escrow turns locked tokens into voting power.  A lock that never opens has
the power of its amount.  A lock with an opening time has that part of its amount
which the time left is of the longest lock, at most the whole amount, and none
once it is open.
-/

namespace EpochVoting

/-- A voter's lock. -/
structure Lock where
  voter : Address
  /-- Receives payouts. -/
  owner : Address
  /-- May act on the voter's commitments. -/
  delegate : Address
  amount : UInt64
  /-- When the lock opens; `none` if it never does. -/
  unlockAt : Option Timestamp
deriving DecidableEq

/-- A lock is filed under its voter. -/
instance : Keyed Lock Address := ⟨Lock.voter⟩

namespace Lock

/-- The delegate acts on the voter's commitments. -/
def isDelegate (l : Lock) (authority : Address) : Bool :=
  authority == l.delegate

/-- Weights may be changed by the owner and by the delegate. -/
def canSetVotes (l : Lock) (authority : Address) : Bool :=
  authority == l.owner || l.isDelegate authority

end Lock

/-- All locks, and the time at which a lock has its full power. -/
structure Escrow where
  maxLockSecs : UInt64
  locks : Table Lock
  maxLockSecs_pos : 0 < maxLockSecs.toNat
deriving DecidableEq

namespace Escrow

/-- An escrow without locks.  A longest lock of no time counts as one second. -/
def create (maxLockSecs : UInt64) : Escrow where
  maxLockSecs := if maxLockSecs = 0 then 1 else maxLockSecs
  locks := Table.empty
  maxLockSecs_pos := by
    split
    · decide
    · next h =>
      apply Nat.pos_of_ne_zero
      intro hz
      exact h (UInt64.toNat_inj.mp hz)

/-- Four years of 365 days. -/
def defaultMaxLockSecs : UInt64 := 126144000

/-- A voter's lock. -/
def lock? (e : Escrow) (voter : Address) : Option Lock :=
  e.locks.find? voter

/-- A voter's lock, which must exist. -/
def lock (e : Escrow) (voter : Address) : Except VotingError Lock :=
  demand (.escrowNotFound voter) (e.lock? voter)

/-- Locks an amount.  A first lock is owned by the voter and delegated to the
voter; a further one replaces amount and opening time only. -/
def setLock (e : Escrow) (voter : Address) (amount : UInt64)
    (unlockAt : Option Timestamp) : Escrow :=
  let fresh : Lock := { voter, owner := voter, delegate := voter, amount := 0, unlockAt := none }
  let old := (e.lock? voter).getD fresh
  { e with locks := e.locks.insert { old with amount, unlockAt } }

/-- Removes a voter's lock. -/
def unlock (e : Escrow) (voter : Address) : Escrow :=
  { e with locks := e.locks.erase voter }

/-- Hands a voter's commitments to a delegate; tells whether there is a lock. -/
def setDelegate (e : Escrow) (voter delegate : Address) : Bool × Escrow :=
  match e.lock? voter with
  | some l => (true, { e with locks := e.locks.insert { l with delegate } })
  | none => (false, e)

/-- Changes the receiver of payouts; tells whether there is a lock. -/
def setOwner (e : Escrow) (voter owner : Address) : Bool × Escrow :=
  match e.lock? voter with
  | some l => (true, { e with locks := e.locks.insert { l with owner } })
  | none => (false, e)

/-- The account that acts on a voter's commitments: the delegate of the lock, or
the voter if there is none. -/
def delegateOf (e : Escrow) (voter : Address) : Address :=
  ((e.lock? voter).map Lock.delegate).getD voter

/-- The voting power of a lock at a time. -/
def lockPower (e : Escrow) (l : Lock) (time : Timestamp) : UInt64 :=
  match l.unlockAt with
  | none => l.amount
  | some opening =>
    let remaining := min (time.secsUntil opening).toNat e.maxLockSecs.toNat
    (Amount.ofNat? (l.amount.toNat * remaining / e.maxLockSecs.toNat)).getD Amount.greatest

/-- A voter's voting power at a time, if there is a lock. -/
def votingPower? (e : Escrow) (voter : Address) (time : Timestamp) : Option UInt64 :=
  (e.lock? voter).map fun l => e.lockPower l time

/-- A voter's voting power at a time; there must be a lock. -/
def votingPower (e : Escrow) (voter : Address) (time : Timestamp) :
    Except VotingError UInt64 :=
  demand (.escrowNotFound voter) (e.votingPower? voter time)

/-- A voter's lock, for a call that only the delegate may make. -/
def requireDelegate (e : Escrow) (authority voter : Address) : Except VotingError Lock := do
  let l ← e.lock voter
  require (l.isDelegate authority) (.notDelegate voter)
  return l

end Escrow
end EpochVoting
