import EpochVoting.Proofs.History

/-!
# What a call pays

The payments of a call can be read off the deployment it is made on and its answer
(`Deployment.payments`): from which account to which one, in which mint and how much.  They
are all that a call does to the token ledger (`settle_payments`).
-/

namespace EpochVoting

/-- The operation brings new tokens into being. -/
def Operation.issues : Operation → Bool
  | .accrueFees .. | .accruePool .. | .fund .. => true
  | _ => false

namespace Deployment

open EpochVoting.Action

variable {d d' : Deployment} {operation : Operation} {reply : Reply}

/-- The payments of a call that is answered with the reply.  Operations that are several calls
at once are not looked into. -/
def paymentsFor (d : Deployment) : Operation → Reply → Except VotingError (List Payment)
  | .ensureEpochGauge target _, .flag true => do
    let gauge ← d.engine.registry.get target
    let capture ← FeeCapture.compute gauge (d.pool.totals target)
    return capture.payments gauge
  | .claimFee _ voter target _ side, .amount share => do
    let gauge ← d.engine.registry.get target
    let lock ← d.escrow.lock voter
    return Payment.due ⟨(gauge.fee side).mint, gauge.feeVault side, lock.owner, share⟩
  | .createBribe briber gauge mint reward epochEnd, .amount id => do
    let bribe ← Bribe.prepare id gauge briber mint reward d.engine.currentEpoch epochEnd
    let escrowed ← bribe.totalEscrow
    return [bribe.escrowPayment escrowed]
  | .claimBribe _ voter id _, .amount amount => do
    let bribe ← d.engine.bribes.get id
    let lock ← d.escrow.lock voter
    return (bribe.payment lock.owner amount).due
  | .clawBackBribe _ id _, .amount amount => do
    let bribe ← d.engine.bribes.get id
    return [bribe.payment bribe.briber amount]
  | .transfer mint source target amount, _ => return [⟨mint, source, target, amount⟩]
  | _, _ => return []

/-- The payments of a call that succeeds. -/
def payments (d : Deployment) (operation : Operation) : List Payment :=
  (d.answer operation >>= d.paymentsFor operation).toOption.getD []

theorem answer_of_run (h : (perform operation).run d = .ok reply d') :
    d.answer operation = .ok reply := by
  unfold answer
  rw [h]

theorem run_of_answer (h : d.answer operation = .ok reply) :
    (perform operation).run d = .ok reply (d.after operation) := by
  unfold answer at h
  unfold after
  split at h
  · next hrun =>
    cases h
    rw [hrun]
  · cases h

theorem answer_of_refused {error : VotingError} (h : (perform operation).run d = .error error d') :
    d.answer operation = .error error := by
  unfold answer
  rw [h]

/-- What is refused pays nothing. -/
theorem payments_of_refused {error : VotingError} (h : d.answer operation = .error error) :
    d.payments operation = [] := by
  unfold payments
  rw [h]
  rfl

/-- A claim of fees that is worth nothing pays nothing. -/
theorem payments_of_nothing {authority : Option Address} {voter target : Address} {epoch : Epoch}
    {side : FeeSide}
    (h : d.answer (.claimFee authority voter target epoch side) = .ok (.amount 0)) :
    d.payments (.claimFee authority voter target epoch side) = [] := by
  unfold payments
  rw [h]
  show (do
    let gauge ← d.engine.registry.get target
    let lock ← d.escrow.lock voter
    return Payment.due ⟨(gauge.fee side).mint, gauge.feeVault side, lock.owner, 0⟩ :
      Except VotingError (List Payment)).toOption.getD [] = []
  cases d.engine.registry.get target with
  | error error => rfl
  | ok gauge => cases d.escrow.lock voter <;> rfl

theorem paymentsFor_of_step (hstep : Step d operation reply d')
    (hissues : operation.issues = false) :
    ∃ payments, d.paymentsFor operation reply = .ok payments ∧
      d.tokens.settle payments = .ok d'.tokens := by
  cases hstep with
  | captured hlive hgauge henabled hnone hcapture hpaid =>
    refine ⟨_, ?_, hpaid⟩
    exact bind_eq_ok_iff.mpr ⟨_, Registry.get_eq_ok_iff.mpr hgauge,
      bind_eq_ok_iff.mpr ⟨_, hcapture, rfl⟩⟩
  | unvotedFee hlock hdelegate helapsed hgauge hrecord hsnapshot hclaim =>
    refine ⟨[], ?_, rfl⟩
    exact bind_eq_ok_iff.mpr ⟨_, Registry.get_eq_ok_iff.mpr hgauge,
      bind_eq_ok_iff.mpr ⟨_, Escrow.lock_eq_ok_iff.mpr hlock, rfl⟩⟩
  | feePaid hlock hdelegate helapsed hgauge hrecord hsnapshot hclaim hpaid =>
    obtain ⟨-, -, a, -, rfl, -⟩ := FeeClaim.compute_eq_ok_some_iff.mp hclaim
    refine ⟨_, ?_, hpaid⟩
    exact bind_eq_ok_iff.mpr ⟨_, Registry.get_eq_ok_iff.mpr hgauge,
      bind_eq_ok_iff.mpr ⟨_, Escrow.lock_eq_ok_iff.mpr hlock, rfl⟩⟩
  | bribeCreated hgauge hid hbribe hescrow hpaid =>
    refine ⟨_, ?_, hpaid⟩
    exact bind_eq_ok_iff.mpr ⟨_, hbribe, bind_eq_ok_iff.mpr ⟨_, hescrow, rfl⟩⟩
  | bribePaid hlock hdelegate helapsed hbribe hclaim hpaid hrecorded =>
    refine ⟨_, ?_, hpaid⟩
    exact bind_eq_ok_iff.mpr ⟨_, BribeLedger.get_eq_ok_iff.mpr hbribe,
      bind_eq_ok_iff.mpr ⟨_, Escrow.lock_eq_ok_iff.mpr hlock, rfl⟩⟩
  | bribeReturned helapsed hbribe hclawback hpaid hrecorded =>
    refine ⟨_, ?_, hpaid⟩
    exact bind_eq_ok_iff.mpr ⟨_, BribeLedger.get_eq_ok_iff.mpr hbribe, rfl⟩
  | transfer hmoved => exact ⟨_, rfl, TokenLedger.settle_singleton.mpr hmoved⟩
  | accrueFees => cases hissues
  | accruePool => cases hissues
  | fund => cases hissues
  | _ => exact ⟨[], rfl, rfl⟩

theorem payments_of_run {payments : List Payment} (h : (perform operation).run d = .ok reply d')
    (hpayments : d.paymentsFor operation reply = .ok payments) :
    d.payments operation = payments := by
  unfold Deployment.payments
  rw [answer_of_run h, show (Except.ok reply >>= d.paymentsFor operation) = _ from hpayments]
  rfl

/-- The payments of a call that succeeds are all that it does to the token ledger. -/
theorem settle_payments (hbasic : operation.isBasic = true) (hissues : operation.issues = false)
    (h : (perform operation).run d = .ok reply d') :
    d.tokens.settle (d.payments operation) = .ok d'.tokens := by
  obtain ⟨payments, hpayments, hsettled⟩ :=
    paymentsFor_of_step (step_of_perform hbasic h) hissues
  rw [payments_of_run h hpayments]
  exact hsettled

end Deployment
end EpochVoting
