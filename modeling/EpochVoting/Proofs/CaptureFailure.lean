import EpochVoting.Proofs.Segregation

/-!
# Captures that fail halfway

A capture pays twice, side a first.  Before it pays it makes sure that the pool holds the
fees of both sides, but not that both fee vaults can take them: tokens that were sent to
the vault of side b may leave no room there.  Then side a has been paid when the call
fails, and no record says so.  This is the only way in which a failed capture leaves
anything behind (`failed_capture_changes_iff`), and while the vaults hold what the books
say it does not happen (`Solvent.not_interrupted`).
-/

namespace EpochVoting
namespace Deployment

open EpochVoting.Action

variable {d d' : Deployment} {target : Address} {epoch : Epoch} {g : Gauge}
  {capture : FeeCapture} {tokens : TokenLedger}

/-- Both sides are due and held by the pool, side a can be paid, which leaves `tokens`, and
from there side b cannot be paid. -/
structure HalfPayable (d : Deployment) (g : Gauge) (capture : FeeCapture)
    (tokens : TokenLedger) : Prop where
  due : ∀ side, capture.accrued.get side ≠ 0
  held : ∀ side, capture.accrued.get side ≤
    d.tokens.balance (g.fee side).mint (Account.poolFees g.target side)
  paid : d.tokens.transfer (g.fee .a).mint (Account.poolFees g.target .a) (g.feeVault .a)
    (capture.accrued.get .a) = .ok tokens
  refused : (tokens.balance (g.fee .b).mint (Account.poolFees g.target .b)).toNat <
      (capture.accrued.get .b).toNat ∨
    Account.poolFees g.target .b ≠ g.feeVault .b ∧
      2 ^ 64 ≤ (tokens.balance (g.fee .b).mint (g.feeVault .b)).toNat +
        (capture.accrued.get .b).toNat

theorem run_captureSide_of_refused {side : FeeSide} {amount : UInt64} {refusal : ExternalError}
    (hdue : amount ≠ 0)
    (h : d.tokens.transfer (g.fee side).mint (Account.poolFees g.target side) (g.feeVault side)
      amount = .error refusal) :
    (captureSide g side amount).run d = .error (.ofExternal refusal) d := by
  unfold captureSide transfer
  rw [if_neg hdue, run_get_bind, h]
  rfl

/-- A capture whose payments are stopped halfway fails and keeps the first of them. -/
theorem HalfPayable.run_eq_error (h : HalfPayable d g capture tokens)
    (hgauge : d.engine.registry.gauges.find? target = some g) (henabled : g.enabled = true)
    (hnone : d.engine.commitments.epochGauge? target d.engine.currentEpoch = none)
    (hcapture : FeeCapture.compute g (d.pool.totals target) = .ok capture) :
    ∃ error, (ensureEpochGauge target d.engine.currentEpoch).run d =
      .error error { d with tokens } := by
  obtain rfl := Registry.target_of_find? hgauge
  obtain ⟨refusal, hrefused⟩ := TokenLedger.transfer_refused_iff.mpr h.refused
  have hlive : d.engine.factory.requireLive d.engine.currentEpoch = .ok () :=
    Factory.requireLive_eq_ok_iff.mpr rfl
  have hallowed : g.requireEnabled = .ok () := Gauge.requireEnabled_eq_ok_iff.mpr henabled
  have hpassed (side : FeeSide) : (requireBalance (g.fee side).mint
      (Account.poolFees g.target side) (capture.accrued.get side)).run d = .ok () d :=
    run_requireBalance_eq_ok_iff.mpr ⟨h.held side, rfl⟩
  have hfirst : (captureSide g .a (capture.accrued.get .a)).run d = .ok () { d with tokens } := by
    unfold captureSide
    rw [if_neg (h.due .a)]
    exact run_transfer_eq_ok_iff.mpr ⟨tokens, h.paid, rfl⟩
  have hsecond : (captureSide g .b (capture.accrued.get .b)).run { d with tokens } =
      .error (.ofExternal refusal) { d with tokens } :=
    run_captureSide_of_refused (h.due .b) hrefused
  refine ⟨.ofExternal refusal, ?_⟩
  unfold ensureEpochGauge
  rw [run_get_bind]
  simp only [moveCaptured_bind, EStateM.run_bind, run_lift, hlive,
    Registry.get_eq_ok_iff.mpr hgauge, hallowed, hnone, Option.isSome_none, Bool.false_eq_true,
    if_false, hcapture, hpassed, hfirst, hsecond]

/-- A failed call that creates a gauge's record has changed something if and only if it
was stopped between its two payments; and then it has made the first and nothing else. -/
theorem failed_capture_changes_iff (target : Address) (epoch : Epoch) (d d' : Deployment) :
    (∃ error, (ensureEpochGauge target epoch).run d = .error error d' ∧ d' ≠ d) ↔
      epoch = d.engine.currentEpoch ∧ ∃ g capture tokens,
        d.engine.registry.gauges.find? target = some g ∧ g.enabled = true ∧
        d.engine.commitments.epochGauge? target epoch = none ∧
        FeeCapture.compute g (d.pool.totals target) = .ok capture ∧
        HalfPayable d g capture tokens ∧ d' = { d with tokens } := by
  constructor
  · rintro ⟨error, hrun, hchanged⟩
    have hwanted : (ensureEpochGauge target ((some epoch).getD d.engine.currentEpoch)).run d =
        .error error d' := hrun
    rcases interrupted_of_ensureEpochGauge hwanted with hsame | hhalf
    · exact absurd hsame hchanged
    obtain @⟨target, _, g, capture, tokens, refusal, hlive, hgauge, henabled, hnone, hcapture,
      hheld, hpaid, hdue, hrefused⟩ := hhalf
    obtain rfl : epoch = d.engine.currentEpoch := hlive
    obtain rfl := Registry.target_of_find? hgauge
    -- Had side a not been due, nothing would have changed.
    have hdueA : capture.accrued.get .a ≠ 0 := by
      intro hzero
      have hnothing : (capture.payment g .a).due = [] := if_pos hzero
      rw [hnothing] at hpaid
      obtain rfl := TokenLedger.settle_nil hpaid
      exact hchanged rfl
    have hsingle : (capture.payment g .a).due = [capture.payment g .a] := if_neg hdueA
    rw [hsingle, TokenLedger.settle_singleton] at hpaid
    refine ⟨rfl, g, capture, tokens, hgauge, henabled, hnone, hcapture, ?_, rfl⟩
    refine ⟨fun side => ?_, hheld, hpaid, TokenLedger.transfer_refused_iff.mp ⟨refusal, hrefused⟩⟩
    cases side with
    | a => exact hdueA
    | b => exact hdue
  · rintro ⟨rfl, g, capture, tokens, hgauge, henabled, hnone, hcapture, hhalf, rfl⟩
    obtain ⟨error, hrun⟩ := hhalf.run_eq_error hgauge henabled hnone hcapture
    refine ⟨error, hrun, fun hsame => ?_⟩
    -- The first payment is counted, so the ledgers differ.
    have hcounted := TokenLedger.transfers_transfer hhalf.paid
    have htokens : tokens = d.tokens := congrArg Deployment.tokens hsame
    rw [htokens] at hcounted
    omega

end Deployment

namespace Sample

/-- Fees are due on both sides, and somebody has filled the fee vault of side b. -/
def cramped : Deployment :=
  deployment.afterAll
    [.addGauge (account 1) ⟨account 2, account 3⟩, .accrueFees (account 1) .a 5,
      .accrueFees (account 1) .b 7,
      .fund (account 3) (Account.feeVault (account 1) .b) Amount.greatest]

example : (cramped.after (.ensureEpochGauge (account 1) none)).engine = cramped.engine ∧
    cramped.tokens.transfers = 0 ∧
    (cramped.after (.ensureEpochGauge (account 1) none)).tokens.transfers = 1 := by
  decide +kernel

end Sample
end EpochVoting
