import EpochVoting.Proofs.Checks
import EpochVoting.Proofs.Payments

/-!
# Steps of a deployment

A step is one successful operation.  `Deployment.Step d operation reply d'` says what
the operation required of `d`, which payments it made, and which records it left in
`d'`.  The calls of the engine that change nothing but records refer to the engine's
own functions; the calls that pay are spelled out, payments first and records last.

Operations that are several calls at once are no steps of their own.  They are taken
apart in `Proofs.Run`.
-/

namespace EpochVoting

/-! ## Payments and records of the calls that pay -/

/-- The captured fees of a side go from the pool to the fee vault. -/
def FeeCapture.payment (c : FeeCapture) (g : Gauge) (side : FeeSide) : Payment where
  mint := (g.fee side).mint
  source := Account.poolFees g.target side
  target := g.feeVault side
  amount := c.accrued.get side

/-- The payments of a capture, side a first. -/
def FeeCapture.payments (c : FeeCapture) (g : Gauge) : List Payment :=
  (c.payment g .a).due ++ (c.payment g .b).due

/-- A fee claim is paid from the fee vault. -/
def FeeClaim.payment (c : FeeClaim) (g : Gauge) (payee : Address) : Payment where
  mint := (g.fee c.side).mint
  source := g.feeVault c.side
  target := payee
  amount := c.share

/-- A bribe's escrow goes to its vault. -/
def Bribe.escrowPayment (b : Bribe) (escrowed : UInt64) : Payment where
  mint := b.mint
  source := b.briber
  target := b.vault
  amount := escrowed

/-- A bribe pays from its vault. -/
def Bribe.payment (b : Bribe) (payee : Address) (amount : UInt64) : Payment where
  mint := b.mint
  source := b.vault
  target := payee
  amount := amount

namespace Engine

/-- The records after a capture: the gauge's counters and a new record of the epoch. -/
def recordCapture (e : Engine) (g : Gauge) (epoch : Epoch) (c : FeeCapture) : Engine :=
  { e with
    registry := e.registry.put (c.apply g)
    commitments := { e.commitments with
      epochGauges := e.commitments.epochGauges.insert (.fresh g.target epoch c.accrued) } }

/-- The records after an unvoted record was removed and its fees were pruned. -/
def recordClean (e : Engine) (g : Gauge) (epoch : Epoch) (pruned : PerSide UInt64) : Engine :=
  { e with
    registry := e.registry.put (g.setPruned pruned)
    commitments := { e.commitments with
      epochGauges := e.commitments.epochGauges.erase (g.target, epoch) } }

/-- The records after a fee claim: the gauge's counter and the voter's flag. -/
def recordFeeClaim (e : Engine) (g : Gauge) (s : Snapshot) (c : FeeClaim) : Engine :=
  { e with
    registry := e.registry.put (c.applyToGauge g)
    commitments := { e.commitments with
      snapshots := e.commitments.snapshots.insert (c.applyToSnapshot g.target s) } }

/-- The records after a bribe was created: the counter of ids and the bribe. -/
def recordBribe (e : Engine) (b : Bribe) : Engine :=
  { e with
    factory := { e.factory with bribeCount := b.id + 1 }
    bribes := e.bribes.insert b }

end Engine

/-- The operation is one call, not several at once. -/
def Operation.isBasic : Operation → Bool
  | .nextEpoch | .addGauge .. | .voteEpoch .. => false
  | _ => true

namespace Deployment

/-- One successful operation: what it required, what it paid and what it left. -/
inductive Step (d : Deployment) : Operation → Reply → Deployment → Prop
  | advanceEpoch {now epoch engine}
      (hcall : d.engine.advanceEpoch (now.getD d.now) = .ok (epoch, engine)) :
      Step d (.advanceEpoch now) (.epoch epoch) { d with engine }
  | setForeman {authority newForeman engine}
      (hcall : d.engine.setForeman authority newForeman = .ok engine) :
      Step d (.setForeman authority newForeman) .done { d with engine }
  | setEpochDuration {authority secs engine}
      (hcall : d.engine.setEpochDuration authority secs = .ok engine) :
      Step d (.setEpochDuration authority secs) .done { d with engine }
  | createGauge {target mints engine}
      (hcall : d.engine.createGauge target mints (d.pool.totals target) = .ok engine) :
      Step d (.createGauge target mints) .done { d with engine }
  | setGaugeEnabled {authority target enabled changed engine}
      (hcall : d.engine.setGaugeEnabled (authority.getD d.foreman) target enabled =
        .ok (changed, engine)) :
      Step d (.setGaugeEnabled authority target enabled) (.flag changed) { d with engine }
  | setVote {authority voter target weight change engine}
      (hcall : d.engine.setVote d.escrow (authority.getD (d.escrow.delegateOf voter)) voter
        target weight = .ok (change, engine)) :
      Step d (.setVote authority voter target weight) (.voteChange change) { d with engine }
  | takeSnapshot {voter taken engine}
      (hcall : d.engine.takeSnapshot d.escrow d.now voter = .ok (taken, engine)) :
      Step d (.takeSnapshot voter) (.flag taken) { d with engine }
  | resetSnapshot {voter engine}
      (hcall : d.engine.resetSnapshot d.escrow d.now voter = .ok engine) :
      Step d (.resetSnapshot voter) .done { d with engine }
  | foundEpochGauge {target epoch g record}
      (hlive : epoch.getD d.engine.currentEpoch = d.engine.currentEpoch)
      (hgauge : d.engine.registry.gauges.find? target = some g)
      (henabled : g.enabled = true)
      (hrecord : d.engine.commitments.epochGauge? target d.engine.currentEpoch = some record) :
      Step d (.ensureEpochGauge target epoch) (.flag false) d
  | captured {target epoch g capture tokens}
      (hlive : epoch.getD d.engine.currentEpoch = d.engine.currentEpoch)
      (hgauge : d.engine.registry.gauges.find? target = some g)
      (henabled : g.enabled = true)
      (hnone : d.engine.commitments.epochGauge? target d.engine.currentEpoch = none)
      (hcapture : FeeCapture.compute g (d.pool.totals target) = .ok capture)
      (hpaid : d.tokens.settle (capture.payments g) = .ok tokens) :
      Step d (.ensureEpochGauge target epoch) (.flag true)
        { d with tokens, engine := d.engine.recordCapture g d.engine.currentEpoch capture }
  | commit {voter target outcome engine}
      (hcall : d.engine.commit voter target = .ok (outcome, engine)) :
      Step d (.commit voter target) (.outcome outcome) { d with engine }
  | revert {authority voter target epoch released engine}
      (hcall : d.engine.revert d.escrow (authority.getD (d.escrow.delegateOf voter)) voter
        target (epoch.getD d.engine.currentEpoch) = .ok (released, engine)) :
      Step d (.revert authority voter target epoch) (.amount released) { d with engine }
  | close {authority voter target epoch allocated engine}
      (hcall : d.engine.close d.escrow (authority.getD (d.escrow.delegateOf voter)) voter
        target epoch = .ok (allocated, engine)) :
      Step d (.close authority voter target epoch) (.amount allocated) { d with engine }
  | cleaned {target epoch g record pruned}
      (helapsed : epoch < d.engine.currentEpoch)
      (hrecord : d.engine.commitments.epochGauge? target epoch = some record)
      (hempty : record.totalPower = 0)
      (hgauge : d.engine.registry.gauges.find? target = some g)
      (hpruned : g.prunedTotals record = .ok pruned) :
      Step d (.cleanEpochGauge target epoch) .done
        { d with engine := d.engine.recordClean g epoch pruned }
  | syncGauge {target g sink}
      (hgauge : d.engine.registry.gauges.find? target = some g)
      (henabled : g.enabled = true)
      (hpush : d.sink.push target (d.engine.rewardShare target) = .ok sink) :
      Step d (.syncGauge target) (.amount (d.engine.rewardShare target)) { d with sink }
  | syncDisabledGauge {target g sink}
      (hgauge : d.engine.registry.gauges.find? target = some g)
      (hdisabled : g.enabled = false)
      (hpush : d.sink.push target 0 = .ok sink) :
      Step d (.syncDisabledGauge target) .done { d with sink }
  | unvotedFee {authority voter target epoch side lock g record snapshot}
      (hlock : d.escrow.lock? voter = some lock)
      (hdelegate : authority.getD (d.escrow.delegateOf voter) = lock.delegate)
      (helapsed : epoch < d.engine.currentEpoch)
      (hgauge : d.engine.registry.gauges.find? target = some g)
      (hrecord : d.engine.commitments.epochGauge? target epoch = some record)
      (hsnapshot : d.engine.commitments.snapshot? voter epoch = some snapshot)
      (hclaim : FeeClaim.compute g record snapshot
        (d.engine.commitments.allocation? voter target epoch) side = .ok none) :
      Step d (.claimFee authority voter target epoch side) (.amount 0) d
  | feePaid {authority voter target epoch side lock g record snapshot claim tokens}
      (hlock : d.escrow.lock? voter = some lock)
      (hdelegate : authority.getD (d.escrow.delegateOf voter) = lock.delegate)
      (helapsed : epoch < d.engine.currentEpoch)
      (hgauge : d.engine.registry.gauges.find? target = some g)
      (hrecord : d.engine.commitments.epochGauge? target epoch = some record)
      (hsnapshot : d.engine.commitments.snapshot? voter epoch = some snapshot)
      (hclaim : FeeClaim.compute g record snapshot
        (d.engine.commitments.allocation? voter target epoch) side = .ok (some claim))
      (hpaid : d.tokens.settle (claim.payment g lock.owner).due = .ok tokens) :
      Step d (.claimFee authority voter target epoch side) (.amount claim.share)
        { d with tokens, engine := d.engine.recordFeeClaim g snapshot claim }
  | bribeCreated {briber target mint rewardPerEpoch epochEnd g id b escrowed tokens}
      (hgauge : d.engine.registry.gauges.find? target = some g)
      (hid : d.engine.factory.nextBribeId = .ok id)
      (hbribe : Bribe.prepare id target briber mint rewardPerEpoch d.engine.currentEpoch
        epochEnd = .ok b)
      (hescrow : b.totalEscrow = .ok escrowed)
      (hpaid : d.tokens.settle [b.escrowPayment escrowed] = .ok tokens) :
      Step d (.createBribe briber target mint rewardPerEpoch epochEnd) (.amount id)
        { d with tokens, engine := d.engine.recordBribe b }
  | bribePaid {authority voter id epoch lock b claim bribes tokens}
      (hlock : d.escrow.lock? voter = some lock)
      (hdelegate : authority.getD (d.escrow.delegateOf voter) = lock.delegate)
      (helapsed : epoch < d.engine.currentEpoch)
      (hbribe : d.engine.bribes.bribes.find? id = some b)
      (hclaim : d.engine.bribes.checkClaim voter id epoch
        (d.engine.totalPower b.gauge epoch)
        (d.engine.commitments.allocation? voter b.gauge epoch) = .ok claim)
      (hpaid : d.tokens.settle (b.payment lock.owner claim.amount).due = .ok tokens)
      (hrecorded : d.engine.bribes.recordClaim claim = .ok bribes) :
      Step d (.claimBribe authority voter id epoch) (.amount claim.amount)
        { d with tokens, engine := { d.engine with bribes } }
  | bribeReturned {briber id epoch b clawback bribes tokens}
      (helapsed : epoch < d.engine.currentEpoch)
      (hbribe : d.engine.bribes.bribes.find? id = some b)
      (hclawback : d.engine.bribes.checkClawback briber id epoch
        (d.engine.totalPower b.gauge epoch) = .ok clawback)
      (hpaid : d.tokens.settle [b.payment b.briber clawback.amount] = .ok tokens)
      (hrecorded : d.engine.bribes.recordClawback clawback = .ok bribes) :
      Step d (.clawBackBribe briber id epoch) (.amount clawback.amount)
        { d with tokens, engine := { d.engine with bribes } }
  | passTime {secs} :
      Step d (.passTime secs) (.time ⟨Amount.addCapped d.now.secs secs⟩)
        { d with now := ⟨Amount.addCapped d.now.secs secs⟩ }
  | passTimeUntil {time} :
      Step d (.passTimeUntil time) (.time (if d.now.secs < time.secs then time else d.now))
        { d with now := if d.now.secs < time.secs then time else d.now }
  | setTime {time} : Step d (.setTime time) (.time time) { d with now := time }
  | lock {voter amount unlockAt} :
      Step d (.lock voter amount unlockAt) .done
        { d with escrow := d.escrow.setLock voter amount unlockAt }
  | unlock {voter} :
      Step d (.unlock voter) .done { d with escrow := d.escrow.unlock voter }
  | setDelegate {voter delegate} :
      Step d (.setDelegate voter delegate) (.flag (d.escrow.setDelegate voter delegate).1)
        { d with escrow := (d.escrow.setDelegate voter delegate).2 }
  | setOwner {voter owner} :
      Step d (.setOwner voter owner) (.flag (d.escrow.setOwner voter owner).1)
        { d with escrow := (d.escrow.setOwner voter owner).2 }
  | setRejecting {rejecting} :
      Step d (.setRejecting rejecting) .done { d with sink := { d.sink with rejecting } }
  | accrueFees {target side amount g pool tokens}
      (hgauge : d.engine.registry.gauges.find? target = some g)
      (hearned : d.pool.accrue d.tokens target side (g.fee side).mint amount =
        .ok (pool, tokens)) :
      Step d (.accrueFees target side amount) .done { d with pool, tokens }
  | accruePool {target side mint amount pool tokens}
      (hearned : d.pool.accrue d.tokens target side mint amount = .ok (pool, tokens)) :
      Step d (.accruePool target side mint amount) .done { d with pool, tokens }
  | setPoolTotal {target side total} :
      Step d (.setPoolTotal target side total) .done
        { d with pool := d.pool.setTotal target side total }
  | fund {mint account amount tokens}
      (hissued : d.tokens.issue mint account amount = .ok tokens) :
      Step d (.fund mint account amount) .done { d with tokens }
  | transfer {mint source target amount tokens}
      (hmoved : d.tokens.transfer mint source target amount = .ok tokens) :
      Step d (.transfer mint source target amount) .done { d with tokens }

/-- A capture whose second payment was refused.  The first one stays made, and no
record says so. -/
inductive Interrupted (d : Deployment) : Operation → VotingError → Deployment → Prop
  | capture {target epoch g capture tokens refusal}
      (hlive : epoch.getD d.engine.currentEpoch = d.engine.currentEpoch)
      (hgauge : d.engine.registry.gauges.find? target = some g)
      (henabled : g.enabled = true)
      (hnone : d.engine.commitments.epochGauge? target d.engine.currentEpoch = none)
      (hcapture : FeeCapture.compute g (d.pool.totals target) = .ok capture)
      (hhas : ∀ side, capture.accrued.get side ≤
        d.tokens.balance (g.fee side).mint (Account.poolFees target side))
      (hpaid : d.tokens.settle (capture.payment g .a).due = .ok tokens)
      (hdue : capture.accrued.get .b ≠ 0)
      (hrefused : tokens.transfer (g.fee .b).mint (Account.poolFees target .b)
        (g.feeVault .b) (capture.accrued.get .b) = .error refusal) :
      Interrupted d (.ensureEpochGauge target epoch) (.ofExternal refusal) { d with tokens }

end Deployment
end EpochVoting
