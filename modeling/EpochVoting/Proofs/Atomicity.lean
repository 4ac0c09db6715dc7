import EpochVoting.Proofs.Segregation

/-!
# Calls that fail leave nothing behind

A call on a deployment makes its checks, then at most one payment, and then writes its
records, in steps that could fail on their own.  None of these does: what a check has
found before the payment is still there after it (`Writable.of_pay`).  So a call that
fails has failed in a check or in its payment, and has changed nothing
(`failed_call_changes_nothing`).  The one exception pays twice; see
`Proofs.CaptureFailure`.
-/

namespace EpochVoting
namespace Deployment

open EpochVoting.Action

variable {d d₁ : Deployment}

/-- The records that a call writes after its payment can be written in `d₁` if its checks
have passed in `d`. -/
structure Writable (d d₁ : Deployment) : Prop where
  /-- The id that a new bribe was given can be used up. -/
  bribeId : ∀ id, d.engine.factory.nextBribeId = .ok id →
    ∃ factory, d₁.engine.factory.takeBribeId = .ok (id, factory)
  /-- A checked claim can be recorded. -/
  claim : ∀ voter id epoch totalPower allocation claim,
    d.engine.bribes.checkClaim voter id epoch totalPower allocation = .ok claim →
      ∃ bribes, d₁.engine.bribes.recordClaim claim = .ok bribes
  /-- A checked clawback can be recorded. -/
  clawback : ∀ authority id epoch totalPower clawback,
    d.engine.bribes.checkClawback authority id epoch totalPower = .ok clawback →
      ∃ bribes, d₁.engine.bribes.recordClawback clawback = .ok bribes
  /-- A gauge that was found can be changed. -/
  gauge : ∀ target g, d.engine.registry.get target = .ok g → ∀ change : Gauge → Gauge,
    ∃ registry, d₁.engine.registry.update target change = .ok registry
  /-- A snapshot that was found can be changed. -/
  snapshot : ∀ voter epoch s, d.engine.commitments.snapshot voter epoch = .ok s →
    ∀ change : Snapshot → Snapshot,
      ∃ commitments, d₁.engine.commitments.updateSnapshot voter epoch change = .ok commitments

/-- What was checked can be written as long as the records are the same. -/
theorem Writable.of_engine (h : d₁.engine = d.engine) : Writable d d₁ := by
  constructor <;> rw [h]
  case bribeId =>
    intro id hid
    exact ⟨_, Factory.takeBribeId_of_nextBribeId hid⟩
  case claim =>
    intro voter id epoch totalPower allocation claim hcheck
    obtain ⟨b, hb, -⟩ := bind_eq_ok_iff.mp hcheck
    rw [BribeLedger.get_eq_ok_iff] at hb
    exact BribeLedger.recordClaim_of_checkClaim hb hcheck
  case clawback =>
    intro authority id epoch totalPower clawback hcheck
    obtain ⟨b, hb, -⟩ := bind_eq_ok_iff.mp hcheck
    rw [BribeLedger.get_eq_ok_iff] at hb
    exact BribeLedger.recordClawback_of_checkClawback hb hcheck
  case gauge =>
    intro target g hg change
    rw [Registry.get_eq_ok_iff] at hg
    exact ⟨_, Registry.update_of_find? hg⟩
  case snapshot =>
    intro voter epoch s hs change
    rw [Commitments.snapshot_eq_ok_iff] at hs
    exact ⟨_, Commitments.updateSnapshot_of_snapshot? hs⟩

/-- A payment leaves everything writable that was checked before it. -/
theorem Writable.of_pay {mint source target : Address} {amount : UInt64}
    (h : (pay mint source target amount).run d = .ok () d₁) : Writable d d₁ := by
  obtain ⟨tokens, -, rfl⟩ := run_pay_eq_ok_iff.mp h
  exact .of_engine rfl

/-- A call other than one that creates a gauge's record leaves nothing behind when it
fails, in any deployment; and after a payment that went through, the records that the
call has checked can be written. -/
theorem failed_call_changes_nothing (d : Deployment) :
    (∀ operation, operation.isBasic = true →
      (∀ target epoch, operation ≠ .ensureEpochGauge target epoch) →
      ∀ error d', (perform operation).run d = .error error d' → d' = d) ∧
    ∀ mint source target amount d₁, (pay mint source target amount).run d = .ok () d₁ →
      Writable d d₁ := by
  constructor
  · intro operation hbasic hcapture error d' herror
    exact atomic_perform hbasic hcapture herror
  · intro mint source target amount d₁ hpaid
    exact .of_pay hpaid

end Deployment

namespace Sample

/-- The sample run up to the end of the first epoch, after which the voter's account has
no room for the fees. -/
def full : Deployment :=
  deployment.afterAll (run.take 8 ++ [.fund (account 2) (account 4) Amount.greatest])

open Deployment EpochVoting.Action in
/-- A claim of fees that passes all checks and is refused by the ledger; and a payment
that the ledger accepts. -/
theorem full_claim_changes_nothing :
    (∃ error d', (perform (.claimFee none (account 4) (account 1) 1 .a)).run full =
      .error error d' ∧ d' = full) ∧
    ∃ d₁, (pay (account 5) (Account.bribeVault 0) (account 4) 20).run full = .ok () d₁ ∧
      Writable full d₁ := by
  obtain ⟨hfailures, hpayments⟩ := failed_call_changes_nothing full
  constructor
  · have hfails : ∃ error d',
        (perform (.claimFee none (account 4) (account 1) 1 .a)).run full = .error error d' := by
      have hrefused : (match (perform (.claimFee none (account 4) (account 1) 1 .a)).run full with
          | .error error _ => decide (error = .ofExternal (.rejected "balance overflow"))
          | .ok .. => false) = true := by
        decide +kernel
      cases hrun : (perform (.claimFee none (account 4) (account 1) 1 .a)).run full with
      | error error d' => exact ⟨error, d', rfl⟩
      | ok reply d' => simp [hrun] at hrefused
    obtain ⟨error, d', herror⟩ := hfails
    exact ⟨error, d', herror, hfailures _ rfl (by simp) error d' herror⟩
  · have hpays : ((pay (account 5) (Account.bribeVault 0) (account 4) 20).run full matches
        .ok _ _) = true := by
      decide +kernel
    cases hrun : (pay (account 5) (Account.bribeVault 0) (account 4) 20).run full with
    | error error d' => simp [hrun] at hpays
    | ok u d₁ => exact ⟨d₁, rfl, hpayments _ _ _ _ d₁ hrun⟩

end Sample
end EpochVoting
