import EpochVoting.Proofs.Segregation

/-!
# What the vaults hold

After every run the settlements of bribes and the payments of fees can be read off the
single records, epoch by epoch; and after a segregated run the balance of every vault is
what these leave: the fees not yet claimed, the escrow not yet settled.
-/

namespace EpochVoting
namespace Deployment

variable {d : Deployment} {foreman : Address} {params : FactoryParams} {maxLockSecs : UInt64}

open Commitments BribeLedger

/-! ## Bribes -/

/-- Bribes, settlements and bribe vaults that agree. -/
structure BribesInOrder (d : Deployment) : Prop where
  /-- The ids in use are those that the counter has passed. -/
  ids : ∀ id, (∃ b, d.engine.bribes.bribes.find? id = some b) ↔ id < d.engine.factory.bribeCount
  /-- A claim is for a covered epoch that is over and in which the gauge has power. -/
  claims : ∀ k ∈ d.engine.bribes.claims.records, ∃ b,
    d.engine.bribes.bribes.find? k.bribe = some b ∧ b.covers k.epoch = true ∧
      k.epoch < d.engine.currentEpoch ∧ d.engine.totalPower b.gauge k.epoch ≠ 0
  /-- A clawback is for a covered epoch that is over and in which the gauge has none. -/
  clawbacks : ∀ k ∈ d.engine.bribes.clawbacks.records, ∃ b,
    d.engine.bribes.bribes.find? k.bribe = some b ∧ b.covers k.epoch = true ∧
      k.epoch < d.engine.currentEpoch ∧ d.engine.totalPower b.gauge k.epoch = 0
  /-- No epoch is settled both ways. -/
  exclusive : ∀ k ∈ d.engine.bribes.claims.records, ∀ w ∈ d.engine.bribes.clawbacks.records,
    ¬ (k.bribe = w.bribe ∧ k.epoch = w.epoch)
  /-- The claims for an epoch stay within its reward. -/
  claimed_le : ∀ id b, d.engine.bribes.bribes.find? id = some b → ∀ epoch,
    d.engine.bribes.claimedIn id epoch ≤ b.rewardPerEpoch.toNat
  claimed_eq : ∀ id b, d.engine.bribes.bribes.find? id = some b →
    b.claimedAmount.toNat = d.engine.bribes.claimedOf id
  /-- Every clawback was of the whole reward. -/
  clawedBack_eq : ∀ id b, d.engine.bribes.bribes.find? id = some b →
    b.clawedBackAmount.toNat = b.rewardPerEpoch.toNat *
      (d.engine.bribes.clawbacks.records.filter fun k => k.bribe == id).length
  /-- The vault holds the escrow less what was claimed and clawed back. -/
  vault_eq : ∀ id b, d.engine.bribes.bribes.find? id = some b →
    ∃ escrowed, b.totalEscrow = .ok escrowed ∧
      (d.tokens.balance b.mint b.vault).toNat + b.claimedAmount.toNat +
        b.clawedBackAmount.toNat = escrowed.toNat
  /-- The vault can pay the reward of every epoch that is still to be settled. -/
  vault_covers : ∀ id b, d.engine.bribes.bribes.find? id = some b →
    b.rewardPerEpoch.toNat * (d.engine.bribes.unsettledEpochs b).length ≤
      (d.tokens.balance b.mint b.vault).toNat

/-- After a segregated run from a new deployment bribes, settlements and vaults agree, and
no bribe has been given other terms on the way. -/
theorem bribes_in_order_along_run (hcreate : create foreman params maxLockSecs = .ok d)
    {run : List Operation} (hrun : Segregated run) :
    (d.afterAll run).BribesInOrder ∧ ∀ earlier, earlier <+: run →
      (d.afterAll earlier).engine.bribes.KeepsTerms (d.afterAll run).engine.bribes := by
  obtain ⟨⟨hpower, -, hbribes⟩, hguarded, hsolvent⟩ :=
    hrun.inCustody (List.prefix_refl run) hcreate
  have hpowerOf (gauge : Address) (epoch : Epoch) :
      (d.afterAll run).engine.totalPower gauge epoch = 0 ↔
        (d.afterAll run).engine.commitments.power gauge epoch = 0 := by
    rw [← Engine.totalPower_toNat, ← UInt64.toNat_inj]
    rfl
  constructor
  · refine {
      ids := hbribes.ids
      claims := fun k hk => ?_
      clawbacks := fun k hk => ?_
      exclusive := fun k hk w hw hkey => hbribes.exclusive hk hw hkey.1 hkey.2
      claimed_le := fun id b hb epoch => hbribes.claimedIn_le hpower hb epoch
      claimed_eq := hbribes.claimed_eq
      clawedBack_eq := fun id b hb => ?_
      vault_eq := fun id b hb => ?_
      vault_covers := fun id b hb => ?_ }
    · obtain ⟨b, hb, hsound⟩ := hbribes.claims k hk
      exact ⟨b, hb, hsound.covers, hsound.elapsed,
        fun hzero => hsound.power_ne_zero ((hpowerOf ..).mp hzero)⟩
    · obtain ⟨b, hb, hsound⟩ := hbribes.clawbacks k hk
      exact ⟨b, hb, hsound.covers, hsound.elapsed, (hpowerOf ..).mpr hsound.power_eq_zero⟩
    · rw [hbribes.clawedBack_eq id b hb]
      exact hbribes.clawedBackOf_eq_mul hb
    · have hfits := (hbribes.terms b (Table.mem_of_find? hb)).escrow_lt
      refine ⟨_, Bribe.totalEscrow_eq_ok_iff.mpr (Amount.toNat_ofNat hfits), ?_⟩
      rw [Amount.toNat_ofNat hfits]
      exact hsolvent.bribeVault_eq hguarded hb
    · -- What is unsettled is at most what the escrow has left, and that is in the vault.
      have hheld := hsolvent.bribeVault_eq hguarded hb
      have hleft := hbribes.settled_le hpower hb
      rw [hbribes.claimed_eq id b hb, hbribes.clawedBack_eq id b hb] at hheld
      omega
  · rintro earlier ⟨rest, rfl⟩
    rw [afterAll_append]
    exact keepsTerms_afterAll (sound_afterAll hcreate earlier) rest

theorem bribes_in_order_along_sample :
    Segregated Sample.run ∧ (Sample.deployment.afterAll Sample.run).BribesInOrder :=
  ⟨Sample.segregated_run,
    (bribes_in_order_along_run Sample.create_deployment Sample.segregated_run).1⟩

/-! ## Fees -/

/-- A side of a gauge whose counters agree with the single payments. -/
structure FeesInOrder (d : Deployment) (g : Gauge) (side : FeeSide) : Prop where
  /-- What was claimed is the sum of the voters' parts whose flags are set. -/
  claimed_eq : (g.fee side).cumulativeClaimed.toNat =
    d.engine.commitments.paidOn g.target side
  /-- A flag is set only where there are a record with power and an allocation. -/
  flags : ∀ s ∈ d.engine.commitments.snapshots.records, s.feeClaimed g.target side = true →
    (∃ r, d.engine.commitments.epochGauge? g.target s.epoch = some r ∧ r.totalPower ≠ 0) ∧
      ∃ a, d.engine.commitments.allocation? s.voter g.target s.epoch = some a
  /-- No epoch pays more than its own fees. -/
  paid_le : ∀ epoch, d.engine.commitments.paidIn g.target epoch side ≤
    d.engine.commitments.feesAt g.target epoch side

/-- After every run from a new deployment the counters of every gauge agree with the single
payments; and if the run is segregated, each fee vault holds the pruned fees and what is
owed for the records that remain. -/
theorem fees_in_order_along_run (hcreate : create foreman params maxLockSecs = .ok d)
    (run : List Operation) {target : Address} {g : Gauge}
    (hgauge : (d.afterAll run).engine.registry.gauges.find? target = some g) (side : FeeSide) :
    (d.afterAll run).FeesInOrder g side ∧ (Segregated run →
      ((d.afterAll run).tokens.balance (g.fee side).mint (g.feeVault side)).toNat =
        (g.fee side).prunedAccrued.toNat +
          (d.afterAll run).engine.commitments.owedOn g.target side) := by
  obtain rfl := Registry.target_of_find? hgauge
  obtain ⟨hpower, hfees, -⟩ := sound_afterAll hcreate run
  constructor
  · refine ⟨hfees.claimed_eq g.target g hgauge side, fun s hs hflag => ?_,
      fun epoch => hpower.consistent.paidIn_le g.target epoch side⟩
    obtain ⟨-, hpositive, hallocation⟩ := hfees.flags s hs g.target side hflag
    obtain ⟨r, hr⟩ := epochGauge?_of_power_ne_zero hpositive
    rw [power_of_epochGauge? hr] at hpositive
    exact ⟨⟨r, hr, fun hzero => hpositive (UInt64.toNat_inj.mpr hzero)⟩, hallocation⟩
  · intro hrun
    obtain ⟨-, hguarded, hsolvent⟩ := hrun.inCustody (List.prefix_refl run) hcreate
    have hheld := hsolvent.feeVault_eq hguarded hgauge side
    have haccrued := hfees.accrued_eq g.target g hgauge side
    have hclaimed := hfees.claimed_eq g.target g hgauge side
    -- What was accrued is pruned, paid or owed; the vault holds what is not paid.
    have howed := owedOn_add_paidOn hpower.consistent hfees.flags g.target side
    omega

theorem fees_in_order_along_sample : ∃ g,
    (Sample.deployment.afterAll Sample.run).engine.registry.gauges.find? (Sample.account 1) =
        some g ∧ (Sample.deployment.afterAll Sample.run).FeesInOrder g .a ∧
      ((Sample.deployment.afterAll Sample.run).tokens.balance (g.fee .a).mint
          (g.feeVault .a)).toNat =
        (g.fee .a).prunedAccrued.toNat +
          (Sample.deployment.afterAll Sample.run).engine.commitments.owedOn g.target .a := by
  have hfound : ((Sample.deployment.afterAll Sample.run).engine.registry.gauges.find?
      (Sample.account 1)).isSome = true := by
    decide +kernel
  obtain ⟨g, hgauge⟩ := Option.isSome_iff_exists.mp hfound
  obtain ⟨hfees, hvault⟩ := fees_in_order_along_run Sample.create_deployment Sample.run hgauge .a
  exact ⟨g, hgauge, hfees, hvault Sample.segregated_run⟩

end Deployment
end EpochVoting
