import EpochVoting.Address
import EpochVoting.FeeSide
import EpochVoting.Time

/-!
# Errors

Every way in which a call can fail is a constructor with the values its message
names; the wording is in `message`.  `VotingError.kind` sorts the failures of
the engine by how a caller reacts.
-/

namespace EpochVoting

/-- The value of an option, or the given error. -/
def demand {ε α : Type} (error : ε) : Option α → Except ε α
  | some x => .ok x
  | none => .error error

/-- The given error unless the condition holds. -/
def require {ε : Type} (condition : Bool) (error : ε) : Except ε Unit :=
  if condition then .ok () else .error error

theorem demand_eq_ok_iff {ε α : Type} {error : ε} {o : Option α} {x : α} :
    demand error o = .ok x ↔ o = some x := by
  cases o <;> simp [demand]

theorem require_eq_ok_iff {ε : Type} {condition : Bool} {error : ε} :
    require condition error = .ok () ↔ condition = true := by
  cases condition <;> simp [require]

/-- A text that names no value. -/
inductive NameError where
  | invalidAddress (text : String)
  | unknownFeeSide (text : String)
  | unknownLogFormat (text : String)
deriving DecidableEq

/-- Failure reported by a collaborator of the engine. -/
inductive ExternalError where
  | insufficientFunds (needed available : UInt64)
  | rejected (reason : String)
deriving DecidableEq

/-- Failure of a record store. -/
inductive StoreError where
  | notFound (key : String)
  | backend (reason : String)
  | serialization (reason : String)
  | corruption (reason : String)
deriving DecidableEq

/-- Why bytes do not stand for a record. -/
inductive DecodeError where
  | endOfBytes
  | invalidBool (byte : UInt8)
deriving DecidableEq

/-- Why a call to the engine fails. -/
inductive VotingError where
  -- Timing
  | epochNotDue (now due : Timestamp)
  | epochStillOpen (epoch current : Epoch)
  | wrongEpoch (requested current : Epoch)
  -- Conflict with the state
  | alreadyCommitted (voter gauge : Address) (epoch : Epoch)
  | alreadyClaimed
  | alreadyClosed
  | notCommitted (voter gauge : Address) (epoch : Epoch)
  | staleWeights (snapshot current : UInt64)
  | mustWithdrawFirst (allocated : UInt64)
  | gaugeExists (gauge : Address)
  -- Authorization
  | notForeman
  | notDelegate (voter : Address)
  | notBriber (bribe : UInt64)
  -- Arithmetic
  | overflow
  | castFailed
  -- Policy
  | gaugeDisabled (gauge : Address)
  | gaugeDisabledCannotVote (gauge : Address)
  | gaugeNotDisabled (gauge : Address)
  | invalidRange (start stop : Epoch)
  | zeroReward
  | epochWasVoted (epoch : Epoch)
  | notEmpty (power : UInt64)
  | nothingToClaim
  | invalidEpochDuration
  -- Missing records
  | gaugeNotFound (gauge : Address)
  | escrowNotFound (voter : Address)
  | epochGaugeNotFound (gauge : Address) (epoch : Epoch)
  | epochVoterNotFound (voter : Address) (epoch : Epoch)
  | bribeNotFound (bribe : UInt64)
  -- Collaborators
  | insufficientFunds (needed available : UInt64)
  | feePoolRegressed (target : Address) (side : FeeSide) (last observed : UInt64)
  | external (reason : String)
  | store (cause : StoreError)
  | serialization (cause : DecodeError)
deriving DecidableEq

/-- How a caller reacts to a failure. -/
inductive ErrorKind where
  | timing
  | stateConflict
  | authorization
  | arithmetic
  | policy
  | notFound
  | external
deriving DecidableEq

namespace NameError

/-- The message of a text that names no value. -/
def message : NameError → String
  | invalidAddress text => s!"invalid address: {text}"
  | unknownFeeSide text => s!"unknown fee side: {text} (expected \"a\" or \"b\")"
  | unknownLogFormat text => s!"unknown log format '{text}' (expected 'human' or 'json')"

end NameError

namespace ExternalError

/-- The message of a collaborator's failure. -/
def message : ExternalError → String
  | insufficientFunds needed available =>
    s!"insufficient funds: need {needed}, available {available}"
  | rejected reason => reason

end ExternalError

namespace StoreError

/-- The message of a store's failure. -/
def message : StoreError → String
  | notFound key => s!"key not found: {key}"
  | backend reason => s!"storage backend error: {reason}"
  | serialization reason => s!"serialization error: {reason}"
  | corruption reason => s!"database is corrupted: {reason}"

end StoreError

namespace DecodeError

/-- The message of bytes that stand for no record. -/
def message : DecodeError → String
  | endOfBytes => "io error: unexpected end of file"
  | invalidBool byte => s!"invalid u8 while decoding bool, expected 0 or 1, found {byte}"

end DecodeError

namespace VotingError

/-- How a caller reacts to the failure. -/
def kind : VotingError → ErrorKind
  | epochNotDue .. | epochStillOpen .. | wrongEpoch .. => .timing
  | alreadyCommitted .. | alreadyClaimed | alreadyClosed | notCommitted ..
  | staleWeights .. | mustWithdrawFirst .. | gaugeExists .. => .stateConflict
  | notForeman | notDelegate .. | notBriber .. => .authorization
  | overflow | castFailed => .arithmetic
  | gaugeDisabled .. | gaugeDisabledCannotVote .. | gaugeNotDisabled ..
  | invalidRange .. | zeroReward | epochWasVoted .. | notEmpty .. | nothingToClaim
  | invalidEpochDuration => .policy
  | gaugeNotFound .. | escrowNotFound .. | epochGaugeNotFound .. | epochVoterNotFound ..
  | bribeNotFound .. => .notFound
  | insufficientFunds .. | feePoolRegressed .. | external .. | store ..
  | serialization .. => .external

/-- The message of a failure. -/
def message : VotingError → String
  | epochNotDue now due => s!"epoch advance not due until {due} (now {now})"
  | epochStillOpen epoch current =>
    s!"epoch {epoch} has not elapsed yet (current epoch {current})"
  | wrongEpoch requested current =>
    s!"epoch {requested} is not the current epoch {current}"
  | alreadyCommitted voter gauge epoch =>
    s!"voter {voter} already committed to gauge {gauge} in epoch {epoch}"
  | alreadyClaimed => "already claimed"
  | alreadyClosed => "epoch vote already closed or never committed"
  | notCommitted voter gauge epoch =>
    s!"voter {voter} has no commitment to gauge {gauge} in epoch {epoch}"
  | staleWeights snapshot current =>
    s!"weights changed since snapshot: snapshot seqno {snapshot}, current seqno {current}"
  | mustWithdrawFirst allocated =>
    s!"voter has {allocated} power committed this epoch; revert commitments first"
  | gaugeExists gauge => s!"gauge {gauge} already exists"
  | notForeman => "caller is not the foreman"
  | notDelegate voter => s!"caller is not the vote delegate of voter {voter}"
  | notBriber bribe => s!"caller is not the briber of bribe {bribe}"
  | overflow => "arithmetic overflow"
  | castFailed => "value does not fit the target integer width"
  | gaugeDisabled gauge => s!"gauge {gauge} is disabled"
  | gaugeDisabledCannotVote gauge =>
    s!"gauge {gauge} is disabled; weight may only be lowered"
  | gaugeNotDisabled gauge => s!"gauge {gauge} is enabled"
  | invalidRange start stop => s!"invalid epoch range [{start}, {stop})"
  | zeroReward => "reward per epoch must be non-zero"
  | epochWasVoted epoch => s!"epoch {epoch} received votes; its reward belongs to voters"
  | notEmpty power => s!"epoch gauge still holds {power} committed power"
  | nothingToClaim => "no committed power to proportion against"
  | invalidEpochDuration => "epoch duration must be non-zero"
  | gaugeNotFound gauge => s!"gauge {gauge} not found"
  | escrowNotFound voter => s!"no escrow for voter {voter}"
  | epochGaugeNotFound gauge epoch => s!"gauge {gauge} has no record for epoch {epoch}"
  | epochVoterNotFound voter epoch => s!"voter {voter} has no snapshot for epoch {epoch}"
  | bribeNotFound bribe => s!"bribe {bribe} not found"
  | insufficientFunds needed available =>
    s!"insufficient funds: need {needed}, available {available}"
  | feePoolRegressed target side last observed =>
    s!"fee pool counter for {target} side {side} went backwards ({last} -> {observed})"
  | external reason => s!"external collaborator rejected the call: {reason}"
  | store cause => s!"storage error: {cause.message}"
  | serialization cause => s!"serialization error: {cause.message}"

/-- A collaborator's failure as a failure of the call that needed it. -/
def ofExternal : ExternalError → VotingError
  | .insufficientFunds needed available => insufficientFunds needed available
  | .rejected reason => external reason

end VotingError

/-- The address a text stands for. -/
def Address.parse (text : String) : Except NameError Address :=
  demand (.invalidAddress text) (Address.parse? text)

/-- The side a text names. -/
def FeeSide.parse (text : String) : Except NameError FeeSide :=
  demand (.unknownFeeSide text) (FeeSide.parse? text)

end EpochVoting
