import EpochVoting.Proofs.Settlement
import EpochVoting.Proofs.Step

/-!
# Every operation is a step or leaves no trace

Main statements: a basic operation that succeeds is a step (`step_of_perform`), and one
that fails leaves the deployment as it was (`atomic_perform`), with one exception.  A
capture pays on two sides one after the other, and if the second payment is refused
the first one stays made (`atomic_or_interrupted`).
-/

namespace EpochVoting

open EpochVoting.Action

/-! ## Payments as actions -/

namespace Action

variable {β : Type} {d d' : Deployment} {p : Payment}

theorem run_pay_settle {u : Unit} :
    (pay p.mint p.source p.target p.amount).run d = .ok u d' ↔
      ∃ tokens, d.tokens.settle [p] = .ok tokens ∧ d' = { d with tokens } := by
  rw [run_pay_eq_ok_iff]
  simp only [TokenLedger.settle_singleton]

/-- A payment that is left out if it is of nothing, in front of an action. -/
theorem run_payDue_eq_ok_iff {next : Action β} {b : β} :
    (if 0 < p.amount then
        pay p.mint p.source p.target p.amount >>= fun _ => next
      else next).run d = .ok b d' ↔
      ∃ tokens, d.tokens.settle p.due = .ok tokens ∧
        next.run { d with tokens } = .ok b d' := by
  unfold Payment.due
  by_cases hzero : p.amount = 0
  · rw [if_pos hzero, if_neg (by rw [hzero]; decide)]
    constructor
    · exact fun h => ⟨d.tokens, rfl, h⟩
    · rintro ⟨tokens, hpaid, h⟩
      rw [TokenLedger.settle_nil hpaid] at h
      exact h
  · rw [if_neg hzero, if_pos (UInt64.pos_iff_ne_zero.mpr hzero), run_bind_eq_ok_iff]
    constructor
    · rintro ⟨_, d₁, hpay, h⟩
      obtain ⟨tokens, hpaid, rfl⟩ := run_pay_settle.mp hpay
      exact ⟨tokens, hpaid, h⟩
    · rintro ⟨tokens, hpaid, h⟩
      exact ⟨(), _, run_pay_settle.mpr ⟨tokens, hpaid, rfl⟩, h⟩

theorem atomic_payDue {next : Action β}
    (h : ∀ tokens, Succeeds next { d with tokens }) :
    Atomic (if 0 < p.amount then
        pay p.mint p.source p.target p.amount >>= fun _ => next
      else next) d := by
  by_cases hpos : 0 < p.amount
  · rw [if_pos hpos]
    refine (atomic_pay _ _ _ _).bind fun _ d₁ hpay => ?_
    obtain ⟨tokens, -, rfl⟩ := run_pay_eq_ok_iff.mp hpay
    exact h tokens
  · rw [if_neg hpos]
    exact (h d.tokens).atomic

/-- Records are written and a fixed answer is given. -/
theorem run_changeEngine_pure {call : Deployment → Except VotingError Engine} {answer b : β}
    (h : (changeEngine call >>= fun _ => pure answer).run d = .ok b d') :
    ∃ engine, call d = .ok engine ∧ b = answer ∧ d' = { d with engine } := by
  obtain ⟨_, _, hrun, hpure⟩ := run_bind_eq_ok_iff.mp h
  obtain ⟨engine, hcall, rfl⟩ := run_changeEngine_eq_ok_iff.mp hrun
  obtain ⟨rfl, rfl⟩ := run_pure_eq_ok_iff.mp hpure
  exact ⟨engine, hcall, rfl, rfl⟩

end Action

namespace Deployment

variable {d d' : Deployment} {authority voter target : Address} {epoch : Epoch}

/-! ## Captures -/

theorem run_captureSide_eq_ok_iff {g : Gauge} {c : FeeCapture} {side : FeeSide} {u : Unit} :
    (captureSide g side (c.accrued.get side)).run d = .ok u d' ↔
      ∃ tokens, d.tokens.settle (c.payment g side).due = .ok tokens ∧
        d' = { d with tokens } := by
  unfold captureSide Payment.due
  by_cases hzero : c.accrued.get side = 0
  · rw [if_pos hzero, if_pos (show (c.payment g side).amount = 0 from hzero),
      run_pure_eq_ok_iff]
    constructor
    · rintro ⟨-, rfl⟩
      exact ⟨d.tokens, rfl, rfl⟩
    · rintro ⟨tokens, hpaid, rfl⟩
      rw [TokenLedger.settle_nil hpaid]
      exact ⟨rfl, rfl⟩
  · rw [if_neg hzero, if_neg (show (c.payment g side).amount ≠ 0 from hzero),
      run_transfer_eq_ok_iff]
    simp only [TokenLedger.settle_singleton]
    rfl

/-- An empty capture is passed over; its checks would be passed and it would pay nothing, so
what comes next is reached as for any other capture. -/
theorem moveCaptured_bind {β : Type} (target : Address) (g : Gauge) (c : FeeCapture)
    (rest : Unit → Action β) :
    moveCaptured target g c >>= rest = (do
      requireBalance (g.fee .a).mint (Account.poolFees target .a) (c.accrued.get .a)
      requireBalance (g.fee .b).mint (Account.poolFees target .b) (c.accrued.get .b)
      captureSide g .a (c.accrued.get .a)
      captureSide g .b (c.accrued.get .b)
      rest ()) := by
  unfold moveCaptured
  by_cases hempty : c.isEmpty = true
  · -- Every account holds at least zero, and a payment of zero is not made.
    have hzero (side : FeeSide) : c.accrued.get side = 0 := by
      rw [beq_iff_eq.mp hempty, PerSide.get_both]
    rw [if_pos hempty, hzero, hzero]
    rfl
  · rw [if_neg hempty]
    simp only [bind_assoc]

/-- The records of a capture can be written once the gauge has no record of the
epoch. -/
theorem captureRecords_eq {e : Engine} {g : Gauge} {c : FeeCapture}
    (hgauge : e.registry.gauges.find? target = some g)
    (hnone : e.commitments.epochGauge? target epoch = none) :
    (do
      let registry ← e.registry.update target c.apply
      let (_, commitments) := e.commitments.createEpochGauge target epoch c.accrued
      return { e with registry, commitments } : Except VotingError Engine) =
      .ok (e.recordCapture g epoch c) := by
  rw [Registry.update_of_find? hgauge]
  unfold Commitments.createEpochGauge Engine.recordCapture
  rw [hnone, Registry.target_of_find? hgauge]
  rfl

theorem step_of_ensureEpochGauge {wanted : Option Epoch} {created : Bool}
    (h : (ensureEpochGauge target (wanted.getD d.engine.currentEpoch)).run d =
      .ok created d') :
    Step d (.ensureEpochGauge target wanted) (.flag created) d' := by
  unfold ensureEpochGauge at h
  simp only [run_get_bind, run_bind_eq_ok_iff, run_lift_eq_ok_iff,
    Factory.requireLive_eq_ok_iff, Registry.get_eq_ok_iff,
    Gauge.requireEnabled_eq_ok_iff] at h
  obtain ⟨_, _, ⟨hlive, rfl⟩, g, _, ⟨hgauge, rfl⟩, _, _, ⟨henabled, rfl⟩, h⟩ := h
  change wanted.getD _ = Engine.currentEpoch _ at hlive
  rw [hlive] at h
  cases hrecord : Commitments.epochGauge? _ target (Engine.currentEpoch _) with
  | some record =>
    rw [hrecord, Option.isSome_some, if_pos rfl, run_pure_eq_ok_iff] at h
    obtain ⟨rfl, rfl⟩ := h
    exact .foundEpochGauge hlive hgauge henabled hrecord
  | none =>
    rw [hrecord, Option.isSome_none, if_neg Bool.false_ne_true] at h
    simp only [moveCaptured_bind, run_bind_eq_ok_iff, run_lift_eq_ok_iff,
      run_requireBalance_eq_ok_iff, run_captureSide_eq_ok_iff, run_changeEngine_eq_ok_iff,
      run_pure_eq_ok_iff] at h
    obtain ⟨c, _, ⟨hcapture, rfl⟩, _, _, ⟨-, rfl⟩, _, _, ⟨-, rfl⟩, _, _, ⟨tokensA, ha, rfl⟩,
      _, _, ⟨tokens, hb, rfl⟩, _, _, ⟨engine, hwritten, rfl⟩, rfl, rfl⟩ := h
    rw [captureRecords_eq hgauge hrecord] at hwritten
    cases hwritten
    exact .captured hlive hgauge henabled hrecord hcapture
      (TokenLedger.settle_append.mpr ⟨tokensA, ha, hb⟩)

/-! ## Pruning -/

/-- The record that pruning asks for can be removed. -/
theorem removeEmptyEpochGauge_of_empty {c : Commitments} {record : EpochGauge}
    (hrecord : c.epochGauge? target epoch = some record) (hempty : record.totalPower = 0) :
    c.removeEmptyEpochGauge target epoch =
      .ok (record, { c with epochGauges := c.epochGauges.erase (target, epoch) }) := by
  unfold Commitments.removeEmptyEpochGauge
  rw [Commitments.epochGauge_eq_ok_iff.mpr hrecord]
  change (require (record.totalPower == 0) _ >>= _) = _
  rw [require_eq_ok_iff.mpr (beq_iff_eq.mpr hempty), Table.take?_of_find? hrecord]
  rfl

theorem step_of_cleanEpochGauge {u : Unit}
    (h : (cleanEpochGauge target epoch).run d = .ok u d') :
    Step d (.cleanEpochGauge target epoch) .done d' := by
  unfold cleanEpochGauge at h
  simp only [run_get_bind, run_bind_eq_ok_iff, run_lift_eq_ok_iff,
    Factory.requireElapsed_eq_ok_iff, Commitments.epochGauge_eq_ok_iff, require_passes_iff,
    beq_iff_eq, Registry.get_eq_ok_iff, run_changeEngine_eq_ok_iff] at h
  obtain ⟨_, _, ⟨helapsed, rfl⟩, record, _, ⟨hrecord, rfl⟩, _, _, ⟨hempty, rfl⟩, g, _,
    ⟨hgauge, rfl⟩, pruned, _, ⟨hpruned, rfl⟩, _, _, ⟨engine, hremoved, rfl⟩,
    engine', hwritten, rfl⟩ := h
  rw [removeEmptyEpochGauge_of_empty hrecord hempty] at hremoved
  cases hremoved
  simp only [Registry.update_of_find? hgauge] at hwritten
  cases hwritten
  have htarget := Registry.target_of_find? hgauge
  subst htarget
  exact .cleaned helapsed hrecord hempty hgauge hpruned

/-! ## Reward shares -/

theorem step_of_syncGauge {share : UInt64} (h : (syncGauge target).run d = .ok share d') :
    Step d (.syncGauge target) (.amount share) d' := by
  unfold syncGauge at h
  simp only [run_get_bind, run_bind_eq_ok_iff, run_lift_eq_ok_iff, Registry.get_eq_ok_iff,
    Gauge.requireEnabled_eq_ok_iff, run_pushShare_eq_ok_iff, run_pure_eq_ok_iff] at h
  obtain ⟨g, _, ⟨hgauge, rfl⟩, _, _, ⟨henabled, rfl⟩, _, _, ⟨sink, hpush, rfl⟩, rfl, rfl⟩ := h
  exact .syncGauge hgauge henabled hpush

theorem step_of_syncDisabledGauge {u : Unit}
    (h : (syncDisabledGauge target).run d = .ok u d') :
    Step d (.syncDisabledGauge target) .done d' := by
  unfold syncDisabledGauge at h
  simp only [run_get_bind, run_bind_eq_ok_iff, run_lift_eq_ok_iff, Registry.get_eq_ok_iff,
    require_passes_iff, Bool.not_eq_true', run_pushShare_eq_ok_iff] at h
  obtain ⟨g, _, ⟨hgauge, rfl⟩, _, _, ⟨hdisabled, rfl⟩, sink, hpush, rfl⟩ := h
  exact .syncDisabledGauge hgauge hdisabled hpush

/-! ## Fee claims -/

theorem feeClaimRecords_eq {e : Engine} {g : Gauge} {s : Snapshot} {c : FeeClaim}
    (hgauge : e.registry.gauges.find? target = some g)
    (hsnapshot : e.commitments.snapshot? voter epoch = some s) :
    (do
      let registry ← e.registry.update target c.applyToGauge
      let commitments ←
        e.commitments.updateSnapshot voter epoch (c.applyToSnapshot target)
      return { e with registry, commitments } : Except VotingError Engine) =
      .ok (e.recordFeeClaim g s c) := by
  rw [Registry.update_of_find? hgauge, Commitments.updateSnapshot_of_snapshot? hsnapshot]
  unfold Engine.recordFeeClaim
  rw [Registry.target_of_find? hgauge]
  rfl

theorem step_of_claimFee {caller : Option Address} {side : FeeSide} {paid : UInt64}
    (h : (claimFee (caller.getD (d.escrow.delegateOf voter)) voter target epoch side).run d =
      .ok paid d') :
    Step d (.claimFee caller voter target epoch side) (.amount paid) d' := by
  unfold claimFee at h
  simp only [run_get_bind, run_bind_eq_ok_iff, run_lift_eq_ok_iff,
    Escrow.requireDelegate_eq_ok_iff, Factory.requireElapsed_eq_ok_iff,
    Registry.get_eq_ok_iff, Commitments.epochGauge_eq_ok_iff,
    Commitments.snapshot_eq_ok_iff] at h
  obtain ⟨lock, _, ⟨⟨hlock, hdelegate⟩, rfl⟩, _, _, ⟨helapsed, rfl⟩, g, _, ⟨hgauge, rfl⟩,
    record, _, ⟨hrecord, rfl⟩, snapshot, _, ⟨hsnapshot, rfl⟩, claim?, _, ⟨hclaim, rfl⟩, h⟩ := h
  cases claim? with
  | none =>
    obtain ⟨rfl, rfl⟩ := run_pure_eq_ok_iff.mp h
    exact .unvotedFee hlock hdelegate helapsed hgauge hrecord hsnapshot hclaim
  | some claim =>
    obtain ⟨-, -, a, -, rfl, -⟩ := FeeClaim.compute_eq_ok_some_iff.mp hclaim
    obtain ⟨tokens, hpaid, h⟩ :=
      (run_payDue_eq_ok_iff (p := claim.payment g lock.owner)).mp h
    obtain ⟨engine, hwritten, rfl, rfl⟩ := run_changeEngine_pure h
    cases hwritten.symm.trans (feeClaimRecords_eq hgauge hsnapshot)
    exact .feePaid hlock hdelegate helapsed hgauge hrecord hsnapshot hclaim hpaid

/-! ## Bribes -/

theorem step_of_createBribe {briber mint : Address} {rewardPerEpoch : UInt64}
    {epochEnd : Epoch} {id : UInt64}
    (h : (createBribe briber target mint rewardPerEpoch epochEnd).run d = .ok id d') :
    Step d (.createBribe briber target mint rewardPerEpoch epochEnd) (.amount id) d' := by
  unfold createBribe at h
  simp only [run_get_bind, run_bind_eq_ok_iff, run_lift_eq_ok_iff, Registry.get_eq_ok_iff,
    run_changeEngine_eq_ok_iff, run_pure_eq_ok_iff] at h
  obtain ⟨g, _, ⟨hgauge, rfl⟩, id, _, ⟨hid, rfl⟩, b, _, ⟨hbribe, rfl⟩, escrowed, _,
    ⟨hescrow, rfl⟩, _, _, hpay, _, _, ⟨engine, hwritten, rfl⟩, rfl, rfl⟩ := h
  have hnew := (Bribe.prepare_eq_ok_iff.mp hbribe).1
  have hmint : b.mint = mint := by rw [hnew]
  have hbriber : b.briber = briber := by rw [hnew]
  have hbid : b.id = id := by rw [hnew]
  rw [← hmint, ← hbriber] at hpay
  obtain ⟨tokens, hpaid, rfl⟩ := (run_pay_settle (p := b.escrowPayment escrowed)).mp hpay
  simp only [Factory.takeBribeId_of_nextBribeId hid] at hwritten
  cases hwritten
  rw [← hbid]
  exact .bribeCreated hgauge (hbid ▸ hid) (hbid ▸ hbribe) hescrow hpaid

theorem step_of_claimBribe {caller : Option Address} {id paid : UInt64}
    (h : (claimBribe (caller.getD (d.escrow.delegateOf voter)) voter id epoch).run d =
      .ok paid d') :
    Step d (.claimBribe caller voter id epoch) (.amount paid) d' := by
  unfold claimBribe at h
  simp only [run_get_bind, run_bind_eq_ok_iff, run_lift_eq_ok_iff,
    Escrow.requireDelegate_eq_ok_iff, Factory.requireElapsed_eq_ok_iff,
    BribeLedger.get_eq_ok_iff] at h
  obtain ⟨lock, _, ⟨⟨hlock, hdelegate⟩, rfl⟩, _, _, ⟨helapsed, rfl⟩, b, _, ⟨hbribe, rfl⟩,
    claim, _, ⟨hclaim, rfl⟩, h⟩ := h
  obtain ⟨tokens, hpaid, h⟩ :=
    (run_payDue_eq_ok_iff (p := b.payment lock.owner claim.amount)).mp h
  obtain ⟨engine, hwritten, rfl, rfl⟩ := run_changeEngine_pure h
  obtain ⟨bribes, hrecorded, hengine⟩ := bind_eq_ok_iff.mp hwritten
  cases hengine
  exact .bribePaid hlock hdelegate helapsed hbribe hclaim hpaid hrecorded

theorem step_of_clawBackBribe {briber : Address} {id returned : UInt64}
    (h : (clawBackBribe briber id epoch).run d = .ok returned d') :
    Step d (.clawBackBribe briber id epoch) (.amount returned) d' := by
  unfold clawBackBribe at h
  simp only [run_get_bind, run_bind_eq_ok_iff, run_lift_eq_ok_iff,
    Factory.requireElapsed_eq_ok_iff, BribeLedger.get_eq_ok_iff, run_changeEngine_eq_ok_iff,
    run_pure_eq_ok_iff] at h
  obtain ⟨_, _, ⟨helapsed, rfl⟩, b, _, ⟨hbribe, rfl⟩, clawback, _, ⟨hclawback, rfl⟩, _, _,
    hpay, _, _, ⟨engine, hwritten, rfl⟩, rfl, rfl⟩ := h
  obtain ⟨tokens, hpaid, rfl⟩ :=
    (run_pay_settle (p := b.payment b.briber clawback.amount)).mp hpay
  obtain ⟨bribes, hrecorded, hengine⟩ := bind_eq_ok_iff.mp hwritten
  cases hengine
  exact .bribeReturned helapsed hbribe hclawback hpaid hrecorded

/-! ## All basic operations -/

/-- The engine and the answer of a call on the engine that answers. -/
theorem run_map_onEngine {α : Type} {call : Deployment → Except VotingError (α × Engine)}
    {wrap : α → Reply} {reply : Reply}
    (h : (wrap <$> onEngine call).run d = .ok reply d') :
    ∃ a engine, call d = .ok (a, engine) ∧ reply = wrap a ∧ d' = { d with engine } := by
  obtain ⟨a, hrun, rfl⟩ := run_map_eq_ok_iff.mp h
  obtain ⟨engine, hcall, rfl⟩ := run_onEngine_eq_ok_iff.mp hrun
  exact ⟨a, engine, hcall, rfl, rfl⟩

/-- The deployment after an action on one of the parts that has no answer. -/
theorem run_bind_done {x : Action Unit} {reply : Reply}
    (h : (x >>= fun _ => pure Reply.done).run d = .ok reply d') :
    x.run d = .ok () d' ∧ reply = .done := by
  obtain ⟨_, _, hrun, hpure⟩ := run_bind_eq_ok_iff.mp h
  obtain ⟨rfl, rfl⟩ := run_pure_eq_ok_iff.mp hpure
  exact ⟨hrun, rfl⟩

theorem run_accruePool {side : FeeSide} {mint : Address} {amount : UInt64} {u : Unit}
    (h : (accruePool target side mint amount).run d = .ok u d') :
    ∃ pool tokens, d.pool.accrue d.tokens target side mint amount = .ok (pool, tokens) ∧
      d' = { d with pool, tokens } := by
  unfold accruePool at h
  rw [run_get_bind, run_bind_eq_ok_iff] at h
  obtain ⟨⟨pool, tokens⟩, _, hearned, hset⟩ := h
  obtain ⟨hearned, rfl⟩ := run_ofExternal_eq_ok_iff.mp hearned
  cases hset
  exact ⟨pool, tokens, hearned, rfl⟩

/-- A basic operation that succeeds is a step. -/
theorem step_of_perform {operation : Operation} {reply : Reply}
    (hbasic : operation.isBasic = true)
    (h : (perform operation).run d = .ok reply d') : Step d operation reply d' := by
  cases operation with
  | nextEpoch => cases hbasic
  | addGauge => cases hbasic
  | voteEpoch => cases hbasic
  | advanceEpoch now =>
    obtain ⟨_, _, hcall, rfl, rfl⟩ := run_map_onEngine h
    exact .advanceEpoch hcall
  | setForeman authority newForeman =>
    obtain ⟨_, hcall, rfl, rfl⟩ := run_changeEngine_pure h
    exact .setForeman hcall
  | setEpochDuration authority secs =>
    obtain ⟨_, hcall, rfl, rfl⟩ := run_changeEngine_pure h
    exact .setEpochDuration hcall
  | createGauge gauge mints =>
    obtain ⟨_, hcall, rfl, rfl⟩ := run_changeEngine_pure h
    exact .createGauge hcall
  | setGaugeEnabled authority gauge enabled =>
    obtain ⟨_, _, hcall, rfl, rfl⟩ := run_map_onEngine h
    exact .setGaugeEnabled hcall
  | setVote authority voter gauge weight =>
    obtain ⟨_, _, hcall, rfl, rfl⟩ := run_map_onEngine h
    exact .setVote hcall
  | takeSnapshot voter =>
    obtain ⟨_, _, hcall, rfl, rfl⟩ := run_map_onEngine h
    exact .takeSnapshot hcall
  | resetSnapshot voter =>
    obtain ⟨_, hcall, rfl, rfl⟩ := run_changeEngine_pure h
    exact .resetSnapshot hcall
  | ensureEpochGauge gauge wanted =>
    rw [perform, run_get_bind] at h
    obtain ⟨created, hrun, rfl⟩ := run_map_eq_ok_iff.mp h
    exact step_of_ensureEpochGauge hrun
  | commit voter gauge =>
    obtain ⟨_, _, hcall, rfl, rfl⟩ := run_map_onEngine h
    exact .commit hcall
  | revert authority voter gauge epoch =>
    obtain ⟨_, _, hcall, rfl, rfl⟩ := run_map_onEngine h
    exact .revert hcall
  | close authority voter gauge epoch =>
    obtain ⟨_, _, hcall, rfl, rfl⟩ := run_map_onEngine h
    exact .close hcall
  | cleanEpochGauge gauge epoch =>
    obtain ⟨hrun, rfl⟩ := run_bind_done h
    exact step_of_cleanEpochGauge hrun
  | syncGauge gauge =>
    obtain ⟨share, hrun, rfl⟩ := run_map_eq_ok_iff.mp h
    exact step_of_syncGauge hrun
  | syncDisabledGauge gauge =>
    obtain ⟨hrun, rfl⟩ := run_bind_done h
    exact step_of_syncDisabledGauge hrun
  | claimFee authority voter gauge epoch side =>
    rw [perform, claimFeeAs] at h
    obtain ⟨paid, hrun, rfl⟩ := run_map_eq_ok_iff.mp h
    exact step_of_claimFee hrun
  | createBribe briber gauge mint rewardPerEpoch epochEnd =>
    obtain ⟨id, hrun, rfl⟩ := run_map_eq_ok_iff.mp h
    exact step_of_createBribe hrun
  | claimBribe authority voter bribe epoch =>
    rw [perform, claimBribeAs] at h
    obtain ⟨paid, hrun, rfl⟩ := run_map_eq_ok_iff.mp h
    exact step_of_claimBribe hrun
  | clawBackBribe briber bribe epoch =>
    obtain ⟨returned, hrun, rfl⟩ := run_map_eq_ok_iff.mp h
    exact step_of_clawBackBribe hrun
  | passTime secs =>
    cases h
    exact .passTime
  | passTimeUntil time =>
    cases h
    exact .passTimeUntil
  | setTime time =>
    cases h
    exact .setTime
  | lock voter amount unlockAt =>
    cases h
    exact .lock
  | unlock voter =>
    cases h
    exact .unlock
  | setDelegate voter delegate =>
    cases h
    exact .setDelegate
  | setOwner voter owner =>
    cases h
    exact .setOwner
  | setRejecting rejecting =>
    cases h
    exact .setRejecting
  | accrueFees gauge side amount =>
    obtain ⟨hrun, rfl⟩ := run_bind_done h
    unfold accrueFees at hrun
    rw [run_get_bind, run_bind_eq_ok_iff] at hrun
    obtain ⟨g, _, hget, hrun⟩ := hrun
    obtain ⟨hgauge, rfl⟩ := run_lift_eq_ok_iff.mp hget
    obtain ⟨pool, tokens, hearned, rfl⟩ := run_accruePool hrun
    exact .accrueFees (Registry.get_eq_ok_iff.mp hgauge) hearned
  | accruePool gauge side mint amount =>
    obtain ⟨hrun, rfl⟩ := run_bind_done h
    obtain ⟨pool, tokens, hearned, rfl⟩ := run_accruePool hrun
    exact .accruePool hearned
  | setPoolTotal gauge side total =>
    cases h
    exact .setPoolTotal
  | fund mint account amount =>
    obtain ⟨hrun, rfl⟩ := run_bind_done h
    unfold fund at hrun
    rw [run_get_bind, run_bind_eq_ok_iff] at hrun
    obtain ⟨tokens, _, hissued, hset⟩ := hrun
    obtain ⟨hissued, rfl⟩ := run_ofExternal_eq_ok_iff.mp hissued
    cases hset
    exact .fund hissued
  | transfer mint source target amount =>
    obtain ⟨hrun, rfl⟩ := run_bind_done h
    obtain ⟨tokens, hmoved, rfl⟩ := run_transfer_eq_ok_iff.mp hrun
    exact .transfer hmoved

/-! ## Failures -/

theorem run_captureSide_error {g : Gauge} {side : FeeSide} {amount : UInt64}
    {error : VotingError} (h : (captureSide g side amount).run d = .error error d') :
    d' = d ∧ amount ≠ 0 ∧ ∃ refusal, error = .ofExternal refusal ∧
      d.tokens.transfer (g.fee side).mint (Account.poolFees g.target side) (g.feeVault side)
        amount = .error refusal := by
  unfold captureSide at h
  by_cases hzero : amount = 0
  · rw [if_pos hzero] at h
    cases h
  · rw [if_neg hzero] at h
    refine ⟨atomic_transfer _ _ _ _ h, hzero, ?_⟩
    unfold transfer at h
    rw [run_get_bind, EStateM.run_bind] at h
    cases hmove : d.tokens.transfer (g.fee side).mint (Account.poolFees g.target side)
        (g.feeVault side) amount with
    | ok tokens =>
      rw [hmove] at h
      cases h
    | error refusal =>
      rw [hmove] at h
      cases h
      exact ⟨refusal, rfl, rfl⟩

/-- The part of a capture that pays and writes fails only in a payment, and leaves
something behind only if it is the second one. -/
theorem capture_error {g : Gauge} {c : FeeCapture} {call : Deployment → Except VotingError Engine}
    {error : VotingError} (hcall : ∀ tokens, ∃ e, call { d with tokens } = .ok e)
    (h : (do
      captureSide g .a (c.accrued.get .a)
      captureSide g .b (c.accrued.get .b)
      changeEngine call
      return true : Action Bool).run d = .error error d') :
    d' = d ∨ ∃ tokens refusal, d.tokens.settle (c.payment g .a).due = .ok tokens ∧
      c.accrued.get .b ≠ 0 ∧
      tokens.transfer (g.fee .b).mint (Account.poolFees g.target .b) (g.feeVault .b)
        (c.accrued.get .b) = .error refusal ∧
      error = .ofExternal refusal ∧ d' = { d with tokens } := by
  rw [EStateM.run_bind] at h
  cases ha : (captureSide g .a (c.accrued.get .a)).run d with
  | error e d₁ =>
    rw [ha] at h
    cases h
    exact Or.inl (run_captureSide_error ha).1
  | ok _ d₁ =>
    obtain ⟨tokens, hpaid, rfl⟩ := run_captureSide_eq_ok_iff.mp ha
    rw [ha] at h
    simp only [EStateM.run_bind] at h
    cases hb : (captureSide g .b (c.accrued.get .b)).run { d with tokens } with
    | error e d₂ =>
      rw [hb] at h
      cases h
      obtain ⟨rfl, hdue, refusal, herror, hrefused⟩ := run_captureSide_error hb
      exact Or.inr ⟨tokens, refusal, hpaid, hdue, hrefused, herror, rfl⟩
    | ok _ d₂ =>
      -- Both payments went through, and then the records are written.
      obtain ⟨tokens', -, rfl⟩ := run_captureSide_eq_ok_iff.mp hb
      obtain ⟨engine, hengine⟩ := hcall tokens'
      have hdone : (changeEngine call).run { d with tokens := tokens' } =
          .ok () { d with tokens := tokens', engine } :=
        run_changeEngine_eq_ok_iff.mpr ⟨engine, hengine, rfl⟩
      rw [hb] at h
      simp only [hdone] at h
      cases h

theorem interrupted_of_ensureEpochGauge {wanted : Option Epoch} {error : VotingError}
    (h : (ensureEpochGauge target (wanted.getD d.engine.currentEpoch)).run d =
      .error error d') :
    d' = d ∨ Interrupted d (.ensureEpochGauge target wanted) error d' := by
  unfold ensureEpochGauge at h
  rw [run_get_bind] at h
  rcases run_lift_bind_error h with hsame | ⟨_, hlive, h⟩
  · exact Or.inl hsame
  rcases run_lift_bind_error h with hsame | ⟨g, hgauge, h⟩
  · exact Or.inl hsame
  rcases run_lift_bind_error h with hsame | ⟨_, henabled, h⟩
  · exact Or.inl hsame
  have hlive : wanted.getD d.engine.currentEpoch = d.engine.currentEpoch :=
    Factory.requireLive_eq_ok_iff.mp hlive
  rw [Registry.get_eq_ok_iff] at hgauge
  rw [Gauge.requireEnabled_eq_ok_iff] at henabled
  rw [hlive] at h
  cases hnone : d.engine.commitments.epochGauge? target d.engine.currentEpoch with
  | some record =>
    rw [hnone, Option.isSome_some, if_pos rfl] at h
    cases h
  | none =>
    rw [hnone, Option.isSome_none, if_neg Bool.false_ne_true] at h
    rcases run_lift_bind_error h with hsame | ⟨c, hcapture, h⟩
    · exact Or.inl hsame
    rw [moveCaptured_bind] at h
    rcases run_requireBalance_bind_error h with hsame | ⟨hhasA, h⟩
    · exact Or.inl hsame
    rcases run_requireBalance_bind_error h with hsame | ⟨hhasB, h⟩
    · exact Or.inl hsame
    have htarget := Registry.target_of_find? hgauge
    rcases capture_error (fun tokens => ⟨_, captureRecords_eq hgauge hnone⟩) h with
      hsame | ⟨tokens, refusal, hpaid, hdue, hrefused, rfl, rfl⟩
    · exact Or.inl hsame
    · rw [htarget] at hrefused
      refine Or.inr (.capture hlive hgauge henabled hnone hcapture (fun side => ?_) hpaid
        hdue hrefused)
      cases side with
      | a => exact hhasA
      | b => exact hhasB

theorem atomic_cleanEpochGauge : Atomic (cleanEpochGauge target epoch) d := by
  refine atomic_get_bind (atomic_lift_bind fun _ _ => atomic_lift_bind fun _ _ =>
    atomic_lift_bind fun _ _ => atomic_lift_bind fun g hgauge => atomic_lift_bind fun _ _ => ?_)
  refine (atomic_changeEngine _).bind fun _ d₁ hremoved => ?_
  -- Removing the record keeps the gauge, so its counters can be written.
  obtain ⟨engine, hwritten, rfl⟩ := run_changeEngine_eq_ok_iff.mp hremoved
  obtain ⟨_, -, hengine⟩ := bind_eq_ok_iff.mp hwritten
  cases hengine
  rw [Registry.get_eq_ok_iff] at hgauge
  refine succeeds_changeEngine (e := ?_) ?_
  rotate_left
  · simp only [Registry.update_of_find? hgauge]
    rfl

theorem atomic_syncGauge : Atomic (syncGauge target) d :=
  atomic_get_bind (atomic_lift_bind fun _ _ => atomic_lift_bind fun _ _ =>
    (atomic_pushShare _ _).bind fun _ _ _ => succeeds_pure _)

theorem atomic_syncDisabledGauge : Atomic (syncDisabledGauge target) d :=
  atomic_get_bind (atomic_lift_bind fun _ _ => atomic_lift_bind fun _ _ =>
    atomic_pushShare _ _)

theorem atomic_claimFee {side : FeeSide} :
    Atomic (claimFee authority voter target epoch side) d := by
  refine atomic_get_bind (atomic_lift_bind fun lock _ => atomic_lift_bind fun _ _ =>
    atomic_lift_bind fun g hgauge => atomic_lift_bind fun _ _ =>
    atomic_lift_bind fun s hsnapshot => atomic_lift_bind fun claim? _ => ?_)
  cases claim? with
  | none => exact atomic_pure _
  | some claim =>
    rw [Registry.get_eq_ok_iff] at hgauge
    rw [Commitments.snapshot_eq_ok_iff] at hsnapshot
    exact atomic_payDue (p := ⟨(g.fee side).mint, g.feeVault side, lock.owner, claim.share⟩)
      fun _ => succeeds_bind (succeeds_changeEngine (feeClaimRecords_eq hgauge hsnapshot))
        fun _ _ _ => succeeds_pure _

theorem atomic_createBribe {briber mint : Address} {rewardPerEpoch : UInt64}
    {epochEnd : Epoch} :
    Atomic (createBribe briber target mint rewardPerEpoch epochEnd) d := by
  refine atomic_get_bind (atomic_lift_bind fun _ _ => atomic_lift_bind fun id hid =>
    atomic_lift_bind fun b _ => atomic_lift_bind fun _ _ => (atomic_pay _ _ _ _).bind
    fun _ d₁ hpay => ?_)
  obtain ⟨tokens, -, rfl⟩ := run_pay_eq_ok_iff.mp hpay
  refine succeeds_bind (succeeds_changeEngine (e := ?_) ?_) fun _ _ _ => succeeds_pure _
  rotate_left
  · simp only [Factory.takeBribeId_of_nextBribeId hid]
    rfl

theorem atomic_claimBribe {id : UInt64} : Atomic (claimBribe authority voter id epoch) d := by
  refine atomic_get_bind (atomic_lift_bind fun lock _ => atomic_lift_bind fun _ _ =>
    atomic_lift_bind fun b hbribe => atomic_lift_bind fun claim hclaim => ?_)
  rw [BribeLedger.get_eq_ok_iff] at hbribe
  -- The claim was checked before the payment, so it can be recorded after it.
  obtain ⟨bribes, hrecorded⟩ := BribeLedger.recordClaim_of_checkClaim hbribe hclaim
  refine atomic_payDue (p := b.payment lock.owner claim.amount) fun _ =>
    succeeds_bind (succeeds_changeEngine (e := { d.engine with bribes }) ?_)
      fun _ _ _ => succeeds_pure _
  exact bind_eq_ok_iff.mpr ⟨bribes, hrecorded, rfl⟩

theorem atomic_clawBackBribe {id : UInt64} : Atomic (clawBackBribe authority id epoch) d := by
  refine atomic_get_bind (atomic_lift_bind fun _ _ => atomic_lift_bind fun b hbribe =>
    atomic_lift_bind fun k hclawback => (atomic_pay _ _ _ _).bind fun _ d₁ hpay => ?_)
  rw [BribeLedger.get_eq_ok_iff] at hbribe
  obtain ⟨tokens, -, rfl⟩ := run_pay_eq_ok_iff.mp hpay
  -- Likewise the clawback.
  obtain ⟨bribes, hrecorded⟩ := BribeLedger.recordClawback_of_checkClawback hbribe hclawback
  refine succeeds_bind (succeeds_changeEngine (e := { d.engine with bribes }) ?_)
    fun _ _ _ => succeeds_pure _
  exact bind_eq_ok_iff.mpr ⟨bribes, hrecorded, rfl⟩

theorem atomic_accruePool {side : FeeSide} {mint : Address} {amount : UInt64} :
    Atomic (accruePool target side mint amount) d :=
  atomic_get_bind (atomic_lift_bind fun _ _ => Succeeds.atomic ⟨(), _, rfl⟩)

theorem atomic_bind_done {x : Action Unit} (hx : Atomic x d) :
    Atomic (x >>= fun _ => pure Reply.done) d :=
  hx.bind fun _ _ _ => succeeds_pure _

/-- An operation other than a capture leaves nothing behind when it fails. -/
theorem atomic_perform {operation : Operation} (hbasic : operation.isBasic = true)
    (hcapture : ∀ target wanted, operation ≠ .ensureEpochGauge target wanted) :
    Atomic (perform operation) d := by
  cases operation with
  | nextEpoch => cases hbasic
  | addGauge => cases hbasic
  | voteEpoch => cases hbasic
  | ensureEpochGauge target wanted => exact absurd rfl (hcapture target wanted)
  | advanceEpoch | setGaugeEnabled | setVote | takeSnapshot | commit | revert | close =>
    exact (atomic_onEngine _).map _
  | setForeman | setEpochDuration | createGauge | resetSnapshot =>
    exact atomic_bind_done (atomic_changeEngine _)
  | cleanEpochGauge => exact atomic_bind_done atomic_cleanEpochGauge
  | syncGauge => exact atomic_syncGauge.map _
  | syncDisabledGauge => exact atomic_bind_done atomic_syncDisabledGauge
  | claimFee => exact Atomic.map (atomic_get_bind atomic_claimFee) _
  | createBribe => exact atomic_createBribe.map _
  | claimBribe => exact Atomic.map (atomic_get_bind atomic_claimBribe) _
  | clawBackBribe => exact atomic_clawBackBribe.map _
  | passTime | passTimeUntil | setTime | lock | unlock | setDelegate | setOwner
  | setRejecting | setPoolTotal => exact Succeeds.atomic ⟨_, _, rfl⟩
  | accrueFees =>
    exact atomic_bind_done (atomic_get_bind (atomic_lift_bind fun _ _ => atomic_accruePool))
  | accruePool => exact atomic_bind_done atomic_accruePool
  | fund =>
    exact atomic_bind_done (atomic_get_bind
      (atomic_ofExternal_bind_set fun d tokens => { d with tokens }))
  | transfer => exact atomic_bind_done (atomic_transfer _ _ _ _)

/-- A basic operation that fails leaves the deployment as it was, or is a capture that
was interrupted between its two payments. -/
theorem atomic_or_interrupted {operation : Operation} {error : VotingError}
    (hbasic : operation.isBasic = true)
    (h : (perform operation).run d = .error error d') :
    d' = d ∨ Interrupted d operation error d' := by
  by_cases hcapture : ∃ target wanted, operation = .ensureEpochGauge target wanted
  · obtain ⟨target, wanted, rfl⟩ := hcapture
    rw [perform, run_get_bind, map_eq_pure_bind, EStateM.run_bind] at h
    cases hrun : (ensureEpochGauge target (wanted.getD d.engine.currentEpoch)).run d with
    | ok created d₁ =>
      rw [hrun] at h
      cases h
    | error e d₁ =>
      rw [hrun] at h
      cases h
      exact interrupted_of_ensureEpochGauge hrun
  · exact Or.inl (atomic_perform hbasic (fun target wanted heq =>
      hcapture ⟨target, wanted, heq⟩) h)

/-- What a basic operation does to a deployment: nothing, a step, or the first half of
a capture. -/
theorem after_cases {operation : Operation} (hbasic : operation.isBasic = true) :
    d.after operation = d ∨ (∃ reply, Step d operation reply (d.after operation)) ∨
      ∃ error, Interrupted d operation error (d.after operation) := by
  unfold after
  cases hrun : (perform operation).run d with
  | ok reply d' => exact Or.inr (Or.inl ⟨reply, step_of_perform hbasic hrun⟩)
  | error error d' =>
    rcases atomic_or_interrupted hbasic hrun with hsame | hhalf
    · exact Or.inl hsame
    · exact Or.inr (Or.inr ⟨error, hhalf⟩)

/-- A basic operation leaves the engine as it was, or it is a step. -/
theorem engine_after_cases {operation : Operation} (hbasic : operation.isBasic = true) :
    (d.after operation).engine = d.engine ∨
      ∃ reply, Step d operation reply (d.after operation) := by
  rcases after_cases (d := d) hbasic with hsame | hstep | ⟨error, hhalf⟩
  · exact Or.inl (congrArg Deployment.engine hsame)
  · exact Or.inr hstep
  · -- Half a capture moves tokens only.
    generalize d.after operation = d' at hhalf ⊢
    cases hhalf
    exact Or.inl rfl

end Deployment
end EpochVoting
