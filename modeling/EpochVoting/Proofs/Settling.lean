import EpochVoting.Proofs.Claims
import EpochVoting.Proofs.VaultBalances

/-!
# Every elapsed epoch can be settled

If the tokens of a mint fit into one amount, a vault can pay whatever it holds to any other
account.  After a segregated run the vaults hold what the books say, and the books have the
part left of every voter who has not claimed.  So such a claim passes all checks and is paid
(`Deployment.claim_pays`), and so does the clawback of a reward in an epoch without power
(`Deployment.clawBack_pays`).

Once all voters have claimed, a pot has paid what is in it but for the rounding, which loses
less than one for each voter.
-/

namespace EpochVoting

/-! ## Payments that find room -/

namespace TokenLedger

variable {t : TokenLedger} {mint : Address}

/-- All tokens of a mint. -/
def supply (t : TokenLedger) (mint : Address) : Nat :=
  t.balances.total fun b => if b.mint = mint then b.amount.toNat else 0

/-- Two accounts hold no more than there is. -/
theorem balance_add_le_supply {account other : Address} (hne : account ≠ other) :
    (t.balance mint account).toNat + (t.balance mint other).toNat ≤ t.supply mint := by
  have hpair := Table.sum_le_total (l := [account, other]) (u := t.balances)
    (List.nodup_cons.mpr ⟨by simpa using hne, List.nodup_singleton other⟩)
    (f := fun a => (t.balance mint a).toNat)
    (g := fun b => if b.mint = mint then b.amount.toNat else 0) (fun a => (mint, a))
    (fun _ _ _ _ _ _ hkey => (Prod.mk.inj hkey).2) fun a _ => by
      unfold balance
      cases hfound : t.balances.find? (mint, a) with
      | none => exact Nat.le_refl _
      | some b =>
        have hmint : b.mint = mint := (Prod.mk.inj (Table.key_of_find? hfound)).1
        rw [Option.elim_some, if_pos hmint]
        exact Nat.le_refl _
  rw [List.map_cons, List.map_singleton, List.sum_cons, List.sum_singleton] at hpair
  exact hpair

/-- If all tokens of the mint fit into one amount, what an account holds can be paid to any
other. -/
theorem settle_succeeds {p : Payment} (hsupply : t.supply p.mint < 2 ^ 64)
    (hapart : p.source ≠ p.target) (hhas : p.amount.toNat ≤ (t.balance p.mint p.source).toNat)
    {payments : List Payment} (hpayments : payments = [p] ∨ payments = p.due) :
    ∃ t', t.settle payments = .ok t' ∧
      (t'.balance p.mint p.target).toNat = (t.balance p.mint p.target).toNat + p.amount.toNat := by
  have hboth : (t.balance p.mint p.source).toNat + (t.balance p.mint p.target).toNat ≤
      t.supply p.mint :=
    t.balance_add_le_supply hapart
  obtain ⟨t', hmoved⟩ := transfer_succeeds hhas fun _ => (by omega :
    (t.balance p.mint p.target).toNat + p.amount.toNat < 2 ^ 64)
  have hsettled : ∃ t', t.settle payments = .ok t' := by
    rcases hpayments with rfl | rfl
    · exact ⟨t', settle_singleton.mpr hmoved⟩
    · unfold Payment.due
      split
      · exact ⟨t, rfl⟩
      · exact ⟨t', settle_singleton.mpr hmoved⟩
  obtain ⟨t', hsettled⟩ := hsettled
  have hbalance := balance_settle hsettled p.mint p.target
  refine ⟨t', hsettled, ?_⟩
  rcases hpayments with rfl | rfl
  · rw [Payment.outflow_cons, Payment.inflow_cons, Payment.outflow_nil, Payment.inflow_nil,
      if_neg fun hkey => hapart hkey.2, if_pos ⟨rfl, rfl⟩] at hbalance
    exact hbalance
  · rw [Payment.outflow_due, Payment.inflow_due, if_neg fun hkey => hapart hkey.2,
      if_pos ⟨rfl, rfl⟩] at hbalance
    exact hbalance

end TokenLedger

/-! ## Voters with an allocation -/

namespace Commitments

variable {c : Commitments} {now : Epoch} {voter gauge : Address} {epoch : Epoch} {a : UInt64}

/-- The voters with an allocation to a gauge. -/
def votersOf (c : Commitments) (gauge : Address) (epoch : Epoch) : List Address :=
  (c.snapshots.records.filter fun s =>
    s.epoch = epoch && (c.allocation? s.voter gauge epoch).isSome).map Snapshot.voter

theorem nodup_votersOf (c : Commitments) (gauge : Address) (epoch : Epoch) :
    (c.votersOf gauge epoch).Nodup := by
  refine List.Nodup.map_on (fun s hs t ht hvoter => ?_) (c.snapshots.nodup_records.filter _)
  simp only [List.mem_filter, Bool.and_eq_true, decide_eq_true_iff] at hs ht
  exact Table.eq_of_key_eq hs.1 ht.1 (Prod.ext hvoter (hs.2.1.trans ht.2.1.symm))

/-- What is allocated is allocated from a snapshot. -/
theorem Consistent.snapshot?_of_allocation (h : c.Consistent now)
    (ha : c.allocation? voter gauge epoch = some a) :
    ∃ s, c.snapshot? voter epoch = some s := by
  cases hs : c.snapshot? voter epoch with
  | some s => exact ⟨s, rfl⟩
  | none =>
    have hzero : c.allocated voter epoch = 0 := by
      unfold allocated
      rw [hs]
      rfl
    cases (h.allocation?_eq_none hzero gauge).symm.trans ha

theorem Consistent.mem_votersOf (h : c.Consistent now) :
    voter ∈ c.votersOf gauge epoch ↔ ∃ a, c.allocation? voter gauge epoch = some a := by
  unfold votersOf
  simp only [List.mem_map, List.mem_filter, Bool.and_eq_true, decide_eq_true_iff]
  constructor
  · rintro ⟨s, ⟨-, -, hsome⟩, rfl⟩
    exact Option.isSome_iff_exists.mp hsome
  · rintro ⟨a, ha⟩
    obtain ⟨s, hs⟩ := h.snapshot?_of_allocation ha
    obtain ⟨hvoter, hepoch⟩ := key_of_snapshot? hs
    refine ⟨s, ⟨Table.mem_of_find? hs, hepoch, ?_⟩, hvoter⟩
    rw [hvoter, ha]
    rfl

/-- Once everybody has the own part, what is left of the value is less than one for each
voter. -/
theorem Consistent.parts_bounds (h : c.Consistent now) (hpower : c.power gauge epoch ≠ 0)
    (value : Nat) :
    ((c.votersOf gauge epoch).map fun v => c.part value gauge epoch v).sum ≤ value ∧
      value ≤ ((c.votersOf gauge epoch).map fun v => c.part value gauge epoch v).sum +
        ((c.votersOf gauge epoch).length - 1) := by
  have hparts := h.allocations_eq (c.nodup_votersOf gauge epoch)
    fun v a ha => h.mem_votersOf.mpr ⟨a, ha⟩
  exact ⟨Table.sum_div_le _ _ value _ (Nat.le_of_eq hparts),
    Table.le_sum_div_add _ _ value _ (Nat.pos_of_ne_zero hpower) hparts⟩

end Commitments

namespace Deployment

open Engine EpochVoting.Action Commitments

variable {S : Set Custody} {d : Deployment} {voter gauge : Address} {epoch : Epoch}

/-- The operation succeeds and answers with the amount, and the payee then holds that much
more of the mint. -/
def Pays (d : Deployment) (operation : Operation) (mint payee : Address) (amount : Nat) : Prop :=
  ∃ paid d', (perform operation).run d = .ok (.amount paid) d' ∧ paid.toNat = amount ∧
    (d'.tokens.balance mint payee).toNat = (d.tokens.balance mint payee).toNat + amount

/-- A vault of a deployment in custody can pay what it holds to an account outside. -/
theorem settle_from_vault {p : Payment} {c : Custody} (hc : c ∈ S) (hsource : c.address = p.source)
    (htarget : Outside S p.target) (hsupply : d.tokens.supply p.mint < 2 ^ 64)
    (hhas : p.amount.toNat ≤ (d.tokens.balance p.mint p.source).toNat)
    {payments : List Payment} (hpayments : payments = [p] ∨ payments = p.due) :
    ∃ tokens, d.tokens.settle payments = .ok tokens ∧
      (tokens.balance p.mint p.target).toNat =
        (d.tokens.balance p.mint p.target).toNat + p.amount.toNat := by
  refine TokenLedger.settle_succeeds hsupply ?_ hhas hpayments
  rw [← hsource]
  exact htarget c hc

/-! ## Fees -/

/-- A claim on fees that passes its checks and is paid. -/
theorem run_claimFee {lock : Lock} {g : Gauge} {record : EpochGauge} {s : Snapshot}
    {claim : FeeClaim} {tokens : TokenLedger} (hlock : d.escrow.lock? voter = some lock)
    (helapsed : epoch < d.engine.currentEpoch)
    (hgauge : d.engine.registry.gauges.find? gauge = some g)
    (hrecord : d.engine.commitments.epochGauge? gauge epoch = some record)
    (hs : d.engine.commitments.snapshot? voter epoch = some s)
    (hclaim : FeeClaim.compute g record s
      (d.engine.commitments.allocation? voter gauge epoch) claim.side = .ok (some claim))
    (hpaid : d.tokens.settle (claim.payment g lock.owner).due = .ok tokens) :
    (perform (.claimFee (some lock.delegate) voter gauge epoch claim.side)).run d =
      .ok (.amount claim.share)
        { d with tokens, engine := d.engine.recordFeeClaim g s claim } := by
  refine run_map_eq_ok_iff.mpr ⟨claim.share, ?_, rfl⟩
  rw [claimFeeAs, run_get_bind, claimFee]
  simp only [run_get_bind, run_bind_eq_ok_iff, run_lift_eq_ok_iff,
    Escrow.requireDelegate_eq_ok_iff, Factory.requireElapsed_eq_ok_iff,
    Registry.get_eq_ok_iff, Commitments.epochGauge_eq_ok_iff,
    Commitments.snapshot_eq_ok_iff]
  refine ⟨lock, d, ⟨⟨hlock, rfl⟩, rfl⟩, (), d, ⟨helapsed, rfl⟩, g, d, ⟨hgauge, rfl⟩, record, d,
    ⟨hrecord, rfl⟩, s, d, ⟨hs, rfl⟩, some claim, d, ⟨hclaim, rfl⟩, ?_⟩
  refine (run_payDue_eq_ok_iff (p := claim.payment g lock.owner)).mpr ⟨tokens, hpaid, ?_⟩
  refine run_bind_eq_ok_iff.mpr ⟨(), _, run_changeEngine_eq_ok_iff.mpr ⟨_, ?_, rfl⟩, rfl⟩
  exact feeClaimRecords_eq hgauge hs

/-- The part of a voter who has not claimed is owed. -/
theorem feeShare_add_claimed_le (hsound : d.engine.Sound) {g : Gauge} {s : Snapshot}
    {side : FeeSide} (hgauge : d.engine.registry.gauges.find? gauge = some g)
    (hpower : d.engine.commitments.power gauge epoch ≠ 0)
    (hs : d.engine.commitments.snapshot? voter epoch = some s)
    (hnew : s.feeClaimed gauge side = false) :
    d.engine.commitments.feeShare voter gauge epoch side +
      (g.fee side).cumulativeClaimed.toNat ≤ (g.fee side).cumulativeAccrued.toNat := by
  obtain ⟨hconsistent, hfees, -⟩ := hsound
  obtain ⟨r, hr⟩ := epochGauge?_of_power_ne_zero hpower
  obtain ⟨hname, hepoch⟩ := key_of_epochGauge? hr
  have hleft := hconsistent.consistent.paidIn_add_feeShare_le hs hnew
  have howed := Table.le_total_of_mem (Table.mem_of_find? hr) (f := fun r : EpochGauge =>
    if r.gauge = gauge then
      (r.accruedFee side).toNat - d.engine.commitments.paidIn gauge r.epoch side else 0)
  change _ ≤ d.engine.commitments.owedOn gauge side at howed
  rw [if_pos hname, hepoch] at howed
  rw [feesAt_of_epochGauge? hr] at hleft
  have haccrued := hfees.accrued_eq gauge g hgauge side
  have hclaimed := hfees.claimed_eq gauge g hgauge side
  have hsum := owedOn_add_paidOn hconsistent.consistent hfees.flags gauge side
  omega

/-- The claim of a voter who has an allocation and has not claimed passes its checks. -/
theorem exists_feeClaim (hsound : d.engine.Sound) {g : Gauge} {r : EpochGauge} {s : Snapshot}
    {side : FeeSide} (hgauge : d.engine.registry.gauges.find? gauge = some g)
    (hr : d.engine.commitments.epochGauge? gauge epoch = some r)
    (hpower : d.engine.commitments.power gauge epoch ≠ 0) {a : UInt64}
    (ha : d.engine.commitments.allocation? voter gauge epoch = some a)
    (hs : d.engine.commitments.snapshot? voter epoch = some s)
    (hnew : s.feeClaimed gauge side = false) :
    ∃ claim : FeeClaim, claim.side = side ∧
      claim.share.toNat = d.engine.commitments.feeShare voter gauge epoch side ∧
      FeeClaim.compute g r s (d.engine.commitments.allocation? voter gauge epoch) side =
        .ok (some claim) := by
  have howed := feeShare_add_claimed_le hsound hgauge hpower hs hnew
  have hfits := (g.fee side).cumulativeAccrued.toNat_lt
  rw [power_of_epochGauge? hr] at hpower
  obtain ⟨share, hshare⟩ := Amount.exists_toNat_eq
    (show d.engine.commitments.feeShare voter gauge epoch side < 2 ^ 64 by omega)
  obtain ⟨total, htotal⟩ := Amount.exists_toNat_eq
    (show (g.fee side).cumulativeClaimed.toNat + share.toNat < 2 ^ 64 by omega)
  refine ⟨⟨side, share, total⟩, rfl, hshare, FeeClaim.compute_eq_ok_some_iff.mpr
    ⟨?_, fun hzero => hpower (UInt64.toNat_inj.mpr hzero), a, ha, rfl, ?_, htotal⟩⟩
  · rw [Registry.target_of_find? hgauge]
    exact hnew
  · rw [hshare, feeShare, feesAt_of_epochGauge? hr, power_of_epochGauge? hr, allocationOf, ha]
    rfl

/-- A voter who has an allocation and has not claimed a side's fees can do so. -/
theorem claimFee_pays (h : InCustody S d) (hsupply : ∀ mint, d.tokens.supply mint < 2 ^ 64)
    (helapsed : epoch < d.engine.currentEpoch)
    (hpower : d.engine.commitments.power gauge epoch ≠ 0) {a : UInt64}
    (ha : d.engine.commitments.allocation? voter gauge epoch = some a) {side : FeeSide}
    (hnew : d.engine.hasClaimed voter (.fees gauge epoch side) = false) {lock : Lock}
    (hlock : d.escrow.lock? voter = some lock) :
    ∃ mint, d.engine.mint? (.fees gauge epoch side) = some mint ∧
      d.Pays (.claimFee (some lock.delegate) voter gauge epoch side) mint lock.owner
        (d.engine.commitments.feeShare voter gauge epoch side) := by
  obtain ⟨r, hr⟩ := epochGauge?_of_power_ne_zero hpower
  obtain ⟨g, hgauge⟩ := h.sound.power.registered r (Table.mem_of_find? hr)
  rw [(key_of_epochGauge? hr).1] at hgauge
  obtain ⟨s, hs⟩ := h.sound.power.consistent.snapshot?_of_allocation ha
  rw [hasClaimed_fees, hs] at hnew
  obtain ⟨claim, rfl, hamount, hclaim⟩ := exists_feeClaim h.sound hgauge hr hpower ha hs hnew
  -- What is owed is in the vault.
  have howed := feeShare_add_claimed_le h.sound hgauge hpower hs hnew
  have hheld := h.solvent.feeVault_eq h.guarded hgauge claim.side
  have hhas : claim.share.toNat ≤
      (d.tokens.balance (g.fee claim.side).mint (g.feeVault claim.side)).toNat := by
    omega
  have hvault : (Custody.feeVault gauge claim.side).address = g.feeVault claim.side := by
    rw [← Registry.target_of_find? hgauge]
    rfl
  obtain ⟨tokens, hpaid, hgained⟩ := settle_from_vault (p := claim.payment g lock.owner)
    (h.guarded.gauges gauge g hgauge _ (Custody.feeVault_mem_ofTarget gauge claim.side)) hvault
    (h.guarded.owners voter lock hlock) (hsupply _) hhas (Or.inr rfl)
  refine ⟨(g.fee claim.side).mint, mint?_fees hgauge epoch claim.side, claim.share, _,
    run_claimFee hlock helapsed hgauge hr hs hclaim hpaid, hamount, ?_⟩
  rw [← hamount]
  exact hgained

/-! ## Bribes -/

theorem address_bribeVault {id : UInt64} {b : Bribe}
    (hbribe : d.engine.bribes.bribes.find? id = some b) :
    (Custody.bribeVault id).address = b.vault := by
  rw [← BribeLedger.id_of_find? hbribe]
  rfl

/-- The part of a voter who has not claimed is left of the escrow. -/
theorem part_add_settled_le (hsound : d.engine.Sound) {id : UInt64} {b : Bribe}
    (hbribe : d.engine.bribes.bribes.find? id = some b) (hcovers : b.covers epoch = true)
    (hpower : d.engine.commitments.power b.gauge epoch ≠ 0)
    (hnew : d.engine.hasClaimed voter (.reward id epoch) = false) :
    b.claimedAmount.toNat + b.clawedBackAmount.toNat +
        d.engine.commitments.part b.rewardPerEpoch.toNat b.gauge epoch voter ≤
      b.rewardPerEpoch.toNat * b.numEpochs.toNat := by
  obtain ⟨hconsistent, -, hbribes⟩ := hsound
  have hclaimedIn := hbribes.claimedIn_add_share_le hconsistent hbribe hnew
  have hclawedBackIn := hbribes.clawedBackIn_of_power hbribe hpower
  rw [hbribes.claimed_eq id b hbribe, hbribes.clawedBack_eq id b hbribe]
  refine hbribes.settled_add_le hconsistent hbribe hcovers ?_
  rw [hclawedBackIn, Nat.add_zero]
  exact hclaimedIn

/-- The claim of a voter who has an allocation and has not claimed passes its checks. -/
theorem exists_bribeClaim (hsound : d.engine.Sound) {id : UInt64} {b : Bribe}
    (hbribe : d.engine.bribes.bribes.find? id = some b) (hcovers : b.covers epoch = true)
    (hpower : d.engine.commitments.power b.gauge epoch ≠ 0) {a : UInt64}
    (ha : d.engine.commitments.allocation? voter b.gauge epoch = some a)
    (hnew : d.engine.hasClaimed voter (.reward id epoch) = false) :
    ∃ claim : BribeClaim, claim.amount.toNat =
        d.engine.commitments.part b.rewardPerEpoch.toNat b.gauge epoch voter ∧
      d.engine.bribes.checkClaim voter id epoch (d.engine.totalPower b.gauge epoch)
        (d.engine.commitments.allocation? voter b.gauge epoch) = .ok claim := by
  have hleft := part_add_settled_le hsound hbribe hcovers hpower hnew
  have hfits := (hsound.bribes.terms b (Table.mem_of_find? hbribe)).escrow_lt
  obtain ⟨amount, hamount⟩ := Amount.exists_toNat_eq
    (show d.engine.commitments.part b.rewardPerEpoch.toNat b.gauge epoch voter < 2 ^ 64 by omega)
  have hfits' : b.claimedAmount.toNat + amount.toNat < 2 ^ 64 := by
    omega
  refine ⟨⟨voter, id, epoch, amount⟩, hamount, (BribeLedger.checkClaim_eq_ok_iff hbribe).mpr
    ⟨rfl, rfl, rfl, hcovers, hnew, ?_, a, ha, ?_, hfits'⟩⟩
  · rw [← totalPower_toNat] at hpower
    exact fun hzero => hpower (UInt64.toNat_inj.mpr hzero)
  · rw [hamount, part, totalPower_toNat, allocationOf, ha]
    rfl

/-- A claim on a bribe that passes its checks and is paid. -/
theorem run_claimBribe {lock : Lock} {b : Bribe} {id : UInt64} {claim : BribeClaim}
    {tokens : TokenLedger} (hlock : d.escrow.lock? voter = some lock)
    (helapsed : epoch < d.engine.currentEpoch)
    (hbribe : d.engine.bribes.bribes.find? id = some b)
    (hclaim : d.engine.bribes.checkClaim voter id epoch (d.engine.totalPower b.gauge epoch)
      (d.engine.commitments.allocation? voter b.gauge epoch) = .ok claim)
    (hpaid : d.tokens.settle (b.payment lock.owner claim.amount).due = .ok tokens) :
    ∃ engine, (perform (.claimBribe (some lock.delegate) voter id epoch)).run d =
      .ok (.amount claim.amount) { d with tokens, engine } := by
  obtain ⟨bribes, hrecorded⟩ := BribeLedger.recordClaim_of_checkClaim hbribe hclaim
  refine ⟨{ d.engine with bribes }, run_map_eq_ok_iff.mpr ⟨claim.amount, ?_, rfl⟩⟩
  rw [claimBribeAs, run_get_bind, claimBribe]
  simp only [run_get_bind, run_bind_eq_ok_iff, run_lift_eq_ok_iff,
    Escrow.requireDelegate_eq_ok_iff, Factory.requireElapsed_eq_ok_iff,
    BribeLedger.get_eq_ok_iff]
  refine ⟨lock, d, ⟨⟨hlock, rfl⟩, rfl⟩, (), d, ⟨helapsed, rfl⟩, b, d, ⟨hbribe, rfl⟩, claim, d,
    ⟨hclaim, rfl⟩, ?_⟩
  refine (run_payDue_eq_ok_iff (p := b.payment lock.owner claim.amount)).mpr ⟨tokens, hpaid, ?_⟩
  refine run_bind_eq_ok_iff.mpr ⟨(), _, run_changeEngine_eq_ok_iff.mpr ⟨_, ?_, rfl⟩, rfl⟩
  exact bind_eq_ok_iff.mpr ⟨bribes, hrecorded, rfl⟩

/-- A voter who has an allocation and has not claimed the reward of a covered epoch can do
so. -/
theorem claimBribe_pays (h : InCustody S d) (hsupply : ∀ mint, d.tokens.supply mint < 2 ^ 64)
    (helapsed : epoch < d.engine.currentEpoch) {id : UInt64} {b : Bribe}
    (hbribe : d.engine.bribes.bribes.find? id = some b) (hcovers : b.covers epoch = true)
    (hpower : d.engine.commitments.power b.gauge epoch ≠ 0) {a : UInt64}
    (ha : d.engine.commitments.allocation? voter b.gauge epoch = some a)
    (hnew : d.engine.hasClaimed voter (.reward id epoch) = false) {lock : Lock}
    (hlock : d.escrow.lock? voter = some lock) :
    d.Pays (.claimBribe (some lock.delegate) voter id epoch) b.mint lock.owner
      (d.engine.commitments.part b.rewardPerEpoch.toNat b.gauge epoch voter) := by
  obtain ⟨claim, hamount, hclaim⟩ :=
    exists_bribeClaim h.sound hbribe hcovers hpower ha hnew
  have howed := part_add_settled_le h.sound hbribe hcovers hpower hnew
  have hheld := h.solvent.bribeVault_eq h.guarded hbribe
  have hhas : claim.amount.toNat ≤ (d.tokens.balance b.mint b.vault).toNat := by
    omega
  obtain ⟨tokens, hpaid, hgained⟩ := settle_from_vault (p := b.payment lock.owner claim.amount)
    (h.guarded.bribes id b hbribe).1 (address_bribeVault hbribe)
    (h.guarded.owners voter lock hlock) (hsupply _) hhas (Or.inr rfl)
  obtain ⟨engine, hrun⟩ := run_claimBribe hlock helapsed hbribe hclaim hpaid
  refine ⟨claim.amount, _, hrun, hamount, ?_⟩
  rw [← hamount]
  exact hgained

/-- A clawback that passes its checks and is paid. -/
theorem run_clawBackBribe {b : Bribe} {id : UInt64} {clawback : BribeClawback}
    {tokens : TokenLedger} (helapsed : epoch < d.engine.currentEpoch)
    (hbribe : d.engine.bribes.bribes.find? id = some b)
    (hclawback : d.engine.bribes.checkClawback b.briber id epoch
      (d.engine.totalPower b.gauge epoch) = .ok clawback)
    (hpaid : d.tokens.settle [b.payment b.briber clawback.amount] = .ok tokens) :
    ∃ engine, (perform (.clawBackBribe b.briber id epoch)).run d =
      .ok (.amount clawback.amount) { d with tokens, engine } := by
  obtain ⟨bribes, hrecorded⟩ := BribeLedger.recordClawback_of_checkClawback hbribe hclawback
  refine ⟨{ d.engine with bribes }, run_map_eq_ok_iff.mpr ⟨clawback.amount, ?_, rfl⟩⟩
  rw [clawBackBribe]
  simp only [run_get_bind, run_bind_eq_ok_iff, run_lift_eq_ok_iff,
    Factory.requireElapsed_eq_ok_iff, BribeLedger.get_eq_ok_iff]
  refine ⟨(), d, ⟨helapsed, rfl⟩, b, d, ⟨hbribe, rfl⟩, clawback, d, ⟨hclawback, rfl⟩, (),
    { d with tokens }, ?_, (), { d with tokens, engine := { d.engine with bribes } }, ?_, rfl⟩
  · exact (run_pay_settle (p := b.payment b.briber clawback.amount)).mpr ⟨tokens, hpaid, rfl⟩
  · exact run_changeEngine_eq_ok_iff.mpr ⟨_, bind_eq_ok_iff.mpr ⟨bribes, hrecorded, rfl⟩, rfl⟩

/-- A briber can take back the reward of a covered epoch without power, once. -/
theorem clawBack_pays (h : InCustody S d) (hsupply : ∀ mint, d.tokens.supply mint < 2 ^ 64)
    (helapsed : epoch < d.engine.currentEpoch) {id : UInt64} {b : Bribe}
    (hbribe : d.engine.bribes.bribes.find? id = some b) (hcovers : b.covers epoch = true)
    (hzero : d.engine.totalPower b.gauge epoch = 0)
    (hnew : d.engine.bribes.isClawedBack id epoch = false) :
    d.Pays (.clawBackBribe b.briber id epoch) b.mint b.briber b.rewardPerEpoch.toNat := by
  obtain ⟨hsound, -, hbribes⟩ := h.sound
  have hpower : d.engine.commitments.power b.gauge epoch = 0 := by
    rw [← totalPower_toNat, hzero]
    rfl
  have hclaimedIn := hbribes.claimedIn_of_no_power hbribe hpower
  have hclawedBackIn : d.engine.bribes.clawedBackIn id epoch = 0 := by
    refine BribeLedger.clawedBackIn_eq_zero ?_
    rintro ⟨k, hk, rfl, rfl⟩
    have hfiled : d.engine.bribes.clawbacks.find? (k.bribe, k.epoch) = some k :=
      Table.find?_key_of_mem hk
    unfold BribeLedger.isClawedBack Table.contains at hnew
    rw [hfiled] at hnew
    cases hnew
  have hleft : b.claimedAmount.toNat + b.clawedBackAmount.toNat + b.rewardPerEpoch.toNat ≤
      b.rewardPerEpoch.toNat * b.numEpochs.toNat := by
    rw [hbribes.claimed_eq id b hbribe, hbribes.clawedBack_eq id b hbribe]
    refine hbribes.settled_add_le hsound hbribe hcovers ?_
    rw [hclaimedIn, hclawedBackIn, Nat.zero_add]
  have hheld := h.solvent.bribeVault_eq h.guarded hbribe
  have hfits := (hbribes.terms b (Table.mem_of_find? hbribe)).escrow_lt
  have hhas : b.rewardPerEpoch.toNat ≤ (d.tokens.balance b.mint b.vault).toNat := by
    omega
  have hclawback : d.engine.bribes.checkClawback b.briber id epoch
      (d.engine.totalPower b.gauge epoch) =
        .ok { bribe := id, epoch, amount := b.rewardPerEpoch } :=
    (BribeLedger.checkClawback_eq_ok_iff hbribe).mpr
      ⟨rfl, rfl, hcovers, hzero, hnew, by omega⟩
  obtain ⟨tokens, hpaid, hgained⟩ := settle_from_vault
    (p := b.payment b.briber b.rewardPerEpoch) (h.guarded.bribes id b hbribe).1
    (address_bribeVault hbribe) (h.guarded.bribes id b hbribe).2 (hsupply _) hhas (Or.inl rfl)
  obtain ⟨engine, hrun⟩ := run_clawBackBribe helapsed hbribe hclawback hpaid
  exact ⟨b.rewardPerEpoch, _, hrun, rfl, hgained⟩

/-! ## Elapsed epochs -/

/-- A voter who has an allocation and has not claimed a pot can do so. -/
theorem claim_pays (h : InCustody S d) (hsupply : ∀ mint, d.tokens.supply mint < 2 ^ 64)
    (helapsed : epoch < d.engine.currentEpoch)
    (hpower : d.engine.commitments.power gauge epoch ≠ 0) {pot : Pot} {value : Nat}
    (hoffers : d.engine.Offers gauge epoch pot value) {a : UInt64}
    (ha : d.engine.commitments.allocation? voter gauge epoch = some a)
    (hnew : d.engine.hasClaimed voter pot = false) {lock : Lock}
    (hlock : d.escrow.lock? voter = some lock) :
    ∃ mint, d.engine.mint? pot = some mint ∧
      d.Pays (pot.claim (some lock.delegate) voter) mint lock.owner
        (d.engine.commitments.part value gauge epoch voter) := by
  cases hoffers with
  | fees side => exact claimFee_pays h hsupply helapsed hpower ha hnew hlock
  | @reward id b hbribe hgauge hcovers =>
    subst hgauge
    exact ⟨b.mint, mint?_reward hbribe epoch,
      claimBribe_pays h hsupply helapsed hbribe hcovers hpower ha hnew hlock⟩

/-- How a pot stands with its voters after a run. -/
structure SharedOut (d : Deployment) (run : List Operation) (gauge : Address) (epoch : Epoch)
    (voters : List Address) (pot : Pot) (value : Nat) : Prop where
  /-- A voter who has a lock and has not claimed can claim through the delegate, and the
  owner gets the voter's part. -/
  claim : ∀ voter ∈ voters, ¬ d.Occurs (Claims pot voter) run →
    ∀ lock, (d.afterAll run).escrow.lock? voter = some lock →
      ∃ mint, (d.afterAll run).engine.mint? pot = some mint ∧
        (d.afterAll run).Pays (pot.claim (some lock.delegate) voter) mint lock.owner
          ((d.afterAll run).engine.commitments.part value gauge epoch voter)
  /-- Once all voters have claimed, less than one for each of them is left. -/
  left : (∀ voter ∈ voters, d.Occurs (Claims pot voter) run) →
    d.paidFrom pot run ≤ value ∧ value ≤ d.paidFrom pot run + (voters.length - 1)

/-- After a segregated run, as long as the tokens of every mint fit into one amount, every
elapsed epoch can be settled.  If the gauge has power in it, its pots are shared out among
the voters with an allocation.  If it has none, the briber of a bribe that covers the epoch
gets back the whole reward, unless it has been clawed back. -/
theorem elapsed_epochs_settle {foreman : Address} {params : FactoryParams}
    {maxLockSecs : UInt64} (hcreate : create foreman params maxLockSecs = .ok d)
    {run : List Operation} (hrun : Segregated run)
    (hsupply : ∀ mint, (d.afterAll run).tokens.supply mint < 2 ^ 64) :
    (∀ gauge epoch, epoch < (d.afterAll run).engine.currentEpoch →
      (d.afterAll run).engine.totalPower gauge epoch ≠ 0 →
      ∃ voters : List Address, voters.Nodup ∧
        (∀ voter, voter ∈ voters ↔
          ∃ a, (d.afterAll run).engine.commitments.allocation? voter gauge epoch = some a) ∧
        ∀ pot value, (d.afterAll run).engine.Offers gauge epoch pot value →
          d.SharedOut run gauge epoch voters pot value) ∧
    ∀ id b, (d.afterAll run).engine.bribes.bribes.find? id = some b →
      ∀ epoch, b.covers epoch = true → epoch < (d.afterAll run).engine.currentEpoch →
        (d.afterAll run).engine.totalPower b.gauge epoch = 0 →
        ¬ d.Occurs (ClawsBack id epoch) run →
          (d.afterAll run).Pays (.clawBackBribe b.briber id epoch) b.mint b.briber
            b.rewardPerEpoch.toNat := by
  have hcustody := hrun.inCustody (List.prefix_refl run) hcreate
  have hconsistent := hcustody.sound.power.consistent
  constructor
  · intro gauge epoch helapsed htotal
    have hpower : (d.afterAll run).engine.commitments.power gauge epoch ≠ 0 := by
      rw [← totalPower_toNat]
      exact fun hzero => htotal (UInt64.toNat_inj.mp hzero)
    have hnodup := (d.afterAll run).engine.commitments.nodup_votersOf gauge epoch
    refine ⟨_, hnodup, fun voter => hconsistent.mem_votersOf, fun pot value hoffers => ?_⟩
    obtain ⟨hoccurs, hpaid⟩ := claims_history hcreate run .refl hoffers hpower hnodup
      fun v a ha => hconsistent.mem_votersOf.mpr ⟨a, ha⟩
    constructor
    · intro voter hvoter hnot lock hlock
      obtain ⟨a, ha⟩ := hconsistent.mem_votersOf.mp hvoter
      rw [hoccurs voter, Bool.not_eq_true] at hnot
      exact claim_pays hcustody hsupply helapsed hpower hoffers ha hnot hlock
    · intro hall
      -- Everybody has been paid the own part.
      have hparts : d.paidFrom pot run = _ := hpaid.trans (congrArg List.sum
        (List.map_congr_left fun v hv => if_pos ((hoccurs v).mp (hall v hv))))
      rw [hparts]
      exact hconsistent.parts_bounds hpower value
  · intro id b hbribe epoch hcovers helapsed hzero hnot
    have hnew := (isClawedBack_afterAll hnot).trans (isClawedBack_of_create hcreate)
    exact clawBack_pays hcustody hsupply helapsed hbribe hcovers hzero hnew

end Deployment

namespace Sample

/-- The sample run up to the claim on the fees of the first epoch, and then to the end of
the second epoch.  The rewards of both epochs are still in the bribe's vault. -/
def halfwayRun : List Operation :=
  run.take 9 ++ [.nextEpoch]

/-- The deployment after it. -/
theorem state_halfwayRun :
    (deployment.afterAll halfwayRun).escrow.lock? (account 4) =
        some ⟨account 4, account 4, account 4, 100, none⟩ ∧
      (deployment.afterAll halfwayRun).engine.bribes.bribes.find? 0 =
        some ⟨0, account 1, account 6, account 5, 20, 1, 4, 0, 0⟩ ∧
      (deployment.afterAll halfwayRun).engine.commitments.feesAt (account 1) 1 .a = 30 ∧
      (deployment.afterAll halfwayRun).engine.commitments.part (20 : UInt64).toNat (account 1) 1
        (account 4) = 20 ∧
      ((deployment.afterAll halfwayRun).engine.commitments.allocation? (account 4)
        (account 1) 1).isSome = true ∧
      (∀ s ∈ (deployment.afterAll halfwayRun).engine.commitments.snapshots.records,
        s.voter = account 4) ∧
      (1 < (deployment.afterAll halfwayRun).engine.currentEpoch ∧
        2 < (deployment.afterAll halfwayRun).engine.currentEpoch) ∧
      ((deployment.afterAll halfwayRun).engine.totalPower (account 1) 1 ≠ 0 ∧
        (deployment.afterAll halfwayRun).engine.totalPower (account 1) 2 = 0) ∧
      ((deployment.afterAll halfwayRun).tokens.balances.total fun b => b.amount.toNat) < 2 ^ 64 ∧
      ((Deployment.perform (.claimFee none (account 4) (account 1) 1 .a)).run
        (deployment.afterAll (run.take 8)) matches .ok _ _) = true := by
  decide +kernel

theorem supply_halfwayRun (mint : Address) :
    (deployment.afterAll halfwayRun).tokens.supply mint < 2 ^ 64 := by
  obtain ⟨-, -, -, -, -, -, -, -, hall, -⟩ := state_halfwayRun
  refine Nat.lt_of_le_of_lt (Table.total_mono fun b _ => ?_) hall
  split
  · exact Nat.le_refl _
  · exact Nat.zero_le _

open Deployment in
/-- The fees are paid out, the voter can claim the reward of the first epoch, and the briber
that of the second. -/
theorem halfwayRun_settles :
    Segregated halfwayRun ∧
      deployment.paidFrom (.fees (account 1) 1 .a) halfwayRun = 30 ∧
      (deployment.afterAll halfwayRun).Pays (.claimBribe (some (account 4)) (account 4) 0 1)
        (account 5) (account 4) 20 ∧
      (deployment.afterAll halfwayRun).Pays (.clawBackBribe (account 6) 0 2)
        (account 5) (account 6) 20 := by
  have hsegregated : Segregated halfwayRun := by
    decide +kernel
  obtain ⟨hlock, hbribe, hfees, hpart, hallocated, hvoters, ⟨hfirst, hsecond⟩, ⟨hpower, hzero⟩, -,
    hclaimed⟩ := state_halfwayRun
  obtain ⟨hvoted, hunvoted⟩ :=
    elapsed_epochs_settle create_deployment hsegregated supply_halfwayRun
  obtain ⟨voters, hnodup, hmem, hpots⟩ := hvoted (account 1) 1 hfirst hpower
  have honly : voters ⊆ [account 4] := by
    intro v hv
    obtain ⟨a, ha⟩ := (hmem v).mp hv
    have hconsistent := (sound_afterAll create_deployment halfwayRun).power.consistent
    obtain ⟨s, hs⟩ := hconsistent.snapshot?_of_allocation ha
    rw [← (Commitments.key_of_snapshot? hs).1, hvoters s (Table.mem_of_find? hs)]
    exact List.mem_singleton.mpr rfl
  refine ⟨hsegregated, ?_, ?_, ?_⟩
  · obtain ⟨hle, hge⟩ := (hpots _ _ (.fees .a)).left fun v hv => by
      obtain rfl := List.mem_singleton.mp (honly hv)
      split at hclaimed
      case h_2 => cases hclaimed
      case h_1 reply d' hrun =>
        refine (occurs_append ..).mpr (Or.inl ?_)
        exact (occurs_append_singleton (run.take 8) _ deployment).mpr
          (Or.inr ⟨rfl, reply, d', hrun⟩)
    have hlength := (List.subperm_of_subset hnodup honly).length_le
    rw [hfees] at hle hge
    rw [List.length_singleton] at hlength
    generalize deployment.paidFrom _ halfwayRun = paid at hle hge ⊢
    omega
  · have hshared := hpots _ _ (.reward hbribe rfl rfl)
    have hnone : ∀ operation ∈ halfwayRun,
        operation.claim? ≠ some (account 4, .reward 0 1) := by
      decide +kernel
    obtain ⟨mint, hmint, hpays⟩ := hshared.claim (account 4)
      ((hmem _).mpr (Option.isSome_iff_exists.mp hallocated))
      (not_occurs (fun operation hop _ hclaims => hnone operation hop hclaims.1) deployment)
      _ hlock
    obtain rfl := Option.some.inj (hmint.symm.trans (Engine.mint?_reward hbribe 1))
    rw [← hpart]
    exact hpays
  · have hnone : ∀ operation ∈ halfwayRun, operation.clawback? ≠ some (0, 2) := by
      decide +kernel
    exact hunvoted 0 _ hbribe 2 rfl hsecond hzero
      (not_occurs (fun operation hop _ hclaws => hnone operation hop hclaws.1) deployment)

end Sample
end EpochVoting
