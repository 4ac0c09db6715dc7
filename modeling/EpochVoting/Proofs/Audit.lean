import EpochVoting.Audit
import EpochVoting.Proofs.Segregation

/-!
# What the audit establishes

The audit passes exactly if the stored totals are the sums of the single records, the
vaults hold what has not been paid out, and no sum that is formed on the way leaves the
64 bits of an amount (`Engine.audit_eq_ok_iff`).  On sound books only the vaults are in
question (`Engine.Sound.audit_eq_ok_iff`), and in custody these hold what they should.
-/

namespace EpochVoting

/-! ## The sums of the audit -/

/-- A list of amounts is summed up if the sum is an amount. -/
theorem Amount.sum?_eq_some_iff {amounts : List UInt64} {c : UInt64} :
    sum? amounts = some c ↔ c.toNat = (amounts.map UInt64.toNat).sum := by
  induction amounts generalizing c with
  | nil => simp [sum?, ← UInt64.toNat_inj, eq_comm]
  | cons a rest ih =>
    simp only [sum?, Option.bind_eq_some_iff, List.map_cons, List.sum_cons]
    constructor
    · rintro ⟨d, hd, hc⟩
      rw [ih] at hd
      rw [add?_eq_some_iff] at hc
      omega
    · intro hc
      have hlt := c.toNat_lt
      have hrest : (rest.map UInt64.toNat).sum < 2 ^ 64 := by omega
      refine ⟨UInt64.ofNat (rest.map UInt64.toNat).sum, ih.mpr ?_, add?_eq_some_iff.mpr ?_⟩
      · exact UInt64.toNat_ofNat_of_lt' hrest
      · rw [UInt64.toNat_ofNat_of_lt' hrest]
        exact hc

namespace Commitments

variable {c : Commitments}

theorem sum_liveOnGauge (gauge : Address) (epoch : Epoch) :
    ((c.liveOnGauge gauge epoch).map UInt64.toNat).sum = c.liveOn gauge epoch := by
  unfold liveOnGauge liveOn
  rw [List.map_map]
  refine (Table.sum_filter ..).trans (Table.total_congr fun x _ => ?_)
  simp only [Bool.and_eq_true, beq_iff_eq, Function.comp]

theorem sum_liveOfVoter (voter : Address) (epoch : Epoch) :
    ((c.liveOfVoter voter epoch).map UInt64.toNat).sum = c.liveOf voter epoch := by
  unfold liveOfVoter liveOf
  rw [List.map_map]
  refine (Table.sum_filter ..).trans (Table.total_congr fun x _ => ?_)
  simp only [Bool.and_eq_true, beq_iff_eq, Function.comp]

theorem sum_closedOnGauge (gauge : Address) (epoch : Epoch) :
    ((c.closedOnGauge gauge epoch).map UInt64.toNat).sum = c.closedOn gauge epoch := by
  have hpresent (l : List Snapshot) :
      ((l.filterMap fun s => s.closedAllocation? gauge).map UInt64.toNat).sum =
        (l.map fun s => s.closedTo gauge).sum := by
    induction l with
    | nil => rfl
    | cons s rest ih =>
      rw [List.filterMap_cons, List.map_cons, List.sum_cons, ← ih]
      unfold Snapshot.closedTo
      cases s.closedAllocation? gauge with
      | none => exact (Nat.zero_add _).symm
      | some a => exact List.sum_cons
  unfold closedOnGauge closedOn
  rw [hpresent]
  refine (Table.sum_filter ..).trans (Table.total_congr fun s _ => ?_)
  simp only [beq_iff_eq]

theorem sum_feesOfGauge (gauge : Address) (side : FeeSide) :
    ((c.feesOfGauge gauge side).map UInt64.toNat).sum = c.feesOn gauge side := by
  unfold feesOfGauge feesOn
  rw [List.map_map]
  refine (Table.sum_filter ..).trans (Table.total_congr fun r _ => ?_)
  simp only [beq_iff_eq, Function.comp]

end Commitments

theorem Snapshot.sum_closedAmounts (s : Snapshot) :
    (s.closedAmounts.map UInt64.toNat).sum = s.closedSum := by
  unfold closedAmounts closedSum Table.total
  rw [List.map_map]
  rfl

/-! ## The single checks -/

namespace Audit

variable {amounts : List UInt64} {a b total : UInt64}

theorem sum_eq_ok_iff :
    sum amounts = .ok total ↔ total.toNat = (amounts.map UInt64.toNat).sum := by
  unfold sum
  rw [demand_eq_ok_iff, Amount.sum?_eq_some_iff]

theorem add_eq_ok_iff : add a b = .ok total ↔ total.toNat = a.toNat + b.toNat := by
  unfold add
  rw [demand_eq_ok_iff, Amount.add?_eq_some_iff]

/-- A sum can be formed if it is an amount. -/
theorem sum_fits_iff :
    (∃ total, sum amounts = .ok total) ↔ (amounts.map UInt64.toNat).sum < 2 ^ 64 := by
  constructor
  · rintro ⟨total, htotal⟩
    rw [sum_eq_ok_iff] at htotal
    exact htotal ▸ total.toNat_lt
  · intro hfits
    exact ⟨UInt64.ofNat _, sum_eq_ok_iff.mpr (Amount.toNat_ofNat hfits)⟩

variable {c : Commitments}

theorem checkPowerSums_eq_ok_iff :
    checkPowerSums c = .ok () ↔
      (∀ x ∈ c.votes.records,
        c.liveOn x.gauge x.epoch < 2 ^ 64 ∧ c.liveOf x.voter x.epoch < 2 ^ 64) ∧
      ∀ s ∈ c.snapshots.records, ∀ a ∈ s.closedAllocations.records,
        c.closedOn a.gauge s.epoch < 2 ^ 64 := by
  unfold checkPowerSums
  rw [check_bind_eq_ok_iff]
  simp only [forM_eq_ok_iff, bind_eq_ok_iff, pure_eq_ok_iff, exists_and_right, and_true,
    sum_fits_iff, Commitments.sum_liveOnGauge, Commitments.sum_liveOfVoter,
    Commitments.sum_closedOnGauge]

/-- The record of a gauge is that of the allocations to it. -/
theorem checkEpochGauge_eq_ok_iff {r : EpochGauge} :
    checkEpochGauge c r = .ok () ↔
      r.closedPower.toNat = c.closedOn r.gauge r.epoch ∧
      r.totalPower.toNat = c.liveOn r.gauge r.epoch + c.closedOn r.gauge r.epoch := by
  unfold checkEpochGauge
  simp only [bind_eq_ok_iff, require_passes_iff, beq_iff_eq, exists_const, sum_eq_ok_iff,
    add_eq_ok_iff, Commitments.sum_liveOnGauge, Commitments.sum_closedOnGauge]
  constructor
  · rintro ⟨closed, hclosed, rfl, live, hlive, total, htotal, rfl⟩
    rw [← hlive, ← hclosed]
    exact ⟨rfl, htotal⟩
  · rintro ⟨hclosed, htotal⟩
    have hfits := r.totalPower.toNat_lt
    -- The total is an amount, so the part of it that is summed up is one too.
    have hlive : c.liveOn r.gauge r.epoch < 2 ^ 64 := by omega
    refine ⟨r.closedPower, hclosed, rfl, UInt64.ofNat _, Amount.toNat_ofNat hlive,
      r.totalPower, ?_, rfl⟩
    rw [Amount.toNat_ofNat hlive, hclosed]
    exact htotal

/-- A snapshot is that of the voter's allocations, which its power covers. -/
theorem checkSnapshot_eq_ok_iff {s : Snapshot} :
    checkSnapshot c s = .ok () ↔
      s.closedPower.toNat = s.closedSum ∧
      s.allocatedPower.toNat = c.liveOf s.voter s.epoch + s.closedSum ∧
      s.allocatedPower.toNat ≤ s.votingPower.toNat := by
  unfold checkSnapshot
  simp only [bind_eq_ok_iff, require_passes_iff, beq_iff_eq, decide_eq_true_iff, exists_const,
    sum_eq_ok_iff, add_eq_ok_iff, Commitments.sum_liveOfVoter, Snapshot.sum_closedAmounts,
    UInt64.le_iff_toNat_le]
  constructor
  · rintro ⟨closed, hclosed, rfl, live, hlive, total, htotal, rfl, hle⟩
    rw [← hlive, ← hclosed]
    exact ⟨rfl, htotal, hle⟩
  · rintro ⟨hclosed, htotal, hle⟩
    have hfits := s.allocatedPower.toNat_lt
    -- As above, the total bounds the sum.
    have hlive : c.liveOf s.voter s.epoch < 2 ^ 64 := by omega
    refine ⟨s.closedPower, hclosed, rfl, UInt64.ofNat _, Amount.toNat_ofNat hlive,
      s.allocatedPower, ?_, rfl, hle⟩
    rw [Amount.toNat_ofNat hlive, hclosed]
    exact htotal

theorem checkWeights_eq_ok_iff {book : WeightBook} :
    checkWeights book = .ok () ↔ ∀ w ∈ book.books.records,
      book.summedWeight w.voter = w.totalWeight.toNat := by
  unfold checkWeights
  simp only [forM_eq_ok_iff, require_passes_iff, beq_iff_eq]

/-- One side of a gauge: what was captured is in the vault or paid out, and is in a record
or pruned. -/
theorem checkFeeSide_eq_ok_iff {e : Engine} {tokens : TokenLedger} {g : Gauge}
    {side : FeeSide} :
    checkFeeSide e tokens g side = .ok () ↔
      (tokens.balance (g.fee side).mint (g.feeVault side)).toNat +
          (g.fee side).cumulativeClaimed.toNat = (g.fee side).cumulativeAccrued.toNat ∧
      e.commitments.feesOn g.target side + (g.fee side).prunedAccrued.toNat =
        (g.fee side).cumulativeAccrued.toNat := by
  unfold checkFeeSide
  simp only [bind_eq_ok_iff, require_passes_iff, beq_iff_eq, exists_const, sum_eq_ok_iff,
    add_eq_ok_iff, Commitments.sum_feesOfGauge]
  constructor
  · rintro ⟨held, hheld, rfl, recorded, hrecorded, total, htotal, hsame⟩
    rw [← hheld, ← hrecorded, ← htotal, hsame]
    exact ⟨rfl, rfl⟩
  · rintro ⟨hheld, htotal⟩
    have hlt := (g.fee side).cumulativeAccrued.toNat_lt
    have hfits : e.commitments.feesOn g.target side < 2 ^ 64 := by omega
    refine ⟨(g.fee side).cumulativeAccrued, hheld.symm, rfl, UInt64.ofNat _,
      Amount.toNat_ofNat hfits, (g.fee side).cumulativeAccrued, ?_, rfl⟩
    rw [Amount.toNat_ofNat hfits]
    exact htotal.symm

theorem checkFees_eq_ok_iff {e : Engine} {tokens : TokenLedger} :
    checkFees e tokens = .ok () ↔
      (∀ r ∈ e.commitments.epochGauges.records, ∀ side,
        e.commitments.feesOn r.gauge side < 2 ^ 64) ∧
      ∀ g ∈ e.registry.gauges.records, ∀ side, checkFeeSide e tokens g side = .ok () := by
  have hsides (P : FeeSide → Prop) : (P .a ∧ P .b) ↔ ∀ side, P side := by
    constructor
    · rintro ⟨ha, hb⟩ side
      cases side with
      | a => exact ha
      | b => exact hb
    · exact fun h => ⟨h .a, h .b⟩
  unfold checkFees
  rw [check_bind_eq_ok_iff]
  refine and_congr ?_ ?_
  · simp only [forM_eq_ok_iff, bind_eq_ok_iff, pure_eq_ok_iff, exists_and_right, and_true,
      sum_fits_iff, Commitments.sum_feesOfGauge]
    exact forall₂_congr fun r _ => hsides fun side => e.commitments.feesOn r.gauge side < 2 ^ 64
  · simp only [forM_eq_ok_iff, check_bind_eq_ok_iff]
    exact forall₂_congr fun g _ => hsides fun side => checkFeeSide e tokens g side = .ok ()

theorem checkBribeVault_eq_ok_iff {tokens : TokenLedger} {b : Bribe} :
    checkBribeVault tokens b = .ok () ↔
      b.rewardPerEpoch.toNat * b.numEpochs.toNat < 2 ^ 64 ∧
      (tokens.balance b.mint b.vault).toNat + b.claimedAmount.toNat +
          b.clawedBackAmount.toNat = b.rewardPerEpoch.toNat * b.numEpochs.toNat := by
  unfold checkBribeVault
  simp only [bind_eq_ok_iff, mapError_eq_ok_iff, Bribe.remaining_eq_ok_iff, require_passes_iff,
    beq_iff_eq]
  constructor
  · rintro ⟨left, hleft, rfl⟩
    exact hleft
  · exact fun h => ⟨_, h, rfl⟩

/-- All bribe vaults hold what is left, and nothing is settled both ways. -/
theorem checkBribes_eq_ok_iff {l : BribeLedger} {tokens : TokenLedger} :
    checkBribes l tokens = .ok () ↔
      (∀ b ∈ l.bribes.records, checkBribeVault tokens b = .ok ()) ∧
      ∀ k ∈ l.clawbacks.records, ∀ c ∈ l.claims.records,
        ¬ (c.bribe = k.bribe ∧ c.epoch = k.epoch) := by
  unfold checkBribes
  simp only [check_bind_eq_ok_iff, forM_eq_ok_iff, require_passes_iff,
    Bool.not_eq_true', List.any_eq_false, Bool.and_eq_true, beq_iff_eq]

end Audit

/-! ## The whole audit -/

namespace Engine

/-- Records and vaults on which the audit has nothing to say. -/
structure Audited (e : Engine) (tokens : TokenLedger) : Prop where
  live_fits : ∀ x ∈ e.commitments.votes.records,
    e.commitments.liveOn x.gauge x.epoch < 2 ^ 64 ∧
      e.commitments.liveOf x.voter x.epoch < 2 ^ 64
  closed_fits : ∀ s ∈ e.commitments.snapshots.records, ∀ a ∈ s.closedAllocations.records,
    e.commitments.closedOn a.gauge s.epoch < 2 ^ 64
  fees_fit : ∀ r ∈ e.commitments.epochGauges.records, ∀ side,
    e.commitments.feesOn r.gauge side < 2 ^ 64
  epochGauges : ∀ r ∈ e.commitments.epochGauges.records,
    r.closedPower.toNat = e.commitments.closedOn r.gauge r.epoch ∧
    r.totalPower.toNat =
      e.commitments.liveOn r.gauge r.epoch + e.commitments.closedOn r.gauge r.epoch
  snapshots : ∀ s ∈ e.commitments.snapshots.records,
    s.closedPower.toNat = s.closedSum ∧
    s.allocatedPower.toNat = e.commitments.liveOf s.voter s.epoch + s.closedSum ∧
    s.allocatedPower.toNat ≤ s.votingPower.toNat
  weights : ∀ w ∈ e.weights.books.records,
    e.weights.summedWeight w.voter = w.totalWeight.toNat
  fees : ∀ g ∈ e.registry.gauges.records, ∀ side,
    (tokens.balance (g.fee side).mint (g.feeVault side)).toNat +
        (g.fee side).cumulativeClaimed.toNat = (g.fee side).cumulativeAccrued.toNat ∧
    e.commitments.feesOn g.target side + (g.fee side).prunedAccrued.toNat =
      (g.fee side).cumulativeAccrued.toNat
  bribes : ∀ b ∈ e.bribes.bribes.records,
    b.rewardPerEpoch.toNat * b.numEpochs.toNat < 2 ^ 64 ∧
    (tokens.balance b.mint b.vault).toNat + b.claimedAmount.toNat +
        b.clawedBackAmount.toNat = b.rewardPerEpoch.toNat * b.numEpochs.toNat
  settled_once : ∀ k ∈ e.bribes.clawbacks.records, ∀ c ∈ e.bribes.claims.records,
    ¬ (c.bribe = k.bribe ∧ c.epoch = k.epoch)

/-- The audit passes if and only if there is nothing to say. -/
theorem audit_eq_ok_iff {e : Engine} {tokens : TokenLedger} :
    e.audit tokens = .ok () ↔ e.Audited tokens := by
  unfold audit Audit.checkPower
  simp only [check_bind_eq_ok_iff, forM_eq_ok_iff, Audit.checkPowerSums_eq_ok_iff,
    Audit.checkEpochGauge_eq_ok_iff, Audit.checkSnapshot_eq_ok_iff,
    Audit.checkWeights_eq_ok_iff, Audit.checkFees_eq_ok_iff, Audit.checkFeeSide_eq_ok_iff,
    Audit.checkBribes_eq_ok_iff, Audit.checkBribeVault_eq_ok_iff]
  constructor
  · rintro ⟨⟨⟨hlive, hclosed⟩, hgauges, hsnapshots⟩, hweights, ⟨hfit, hfees⟩, hbribes, honce⟩
    exact ⟨hlive, hclosed, hfit, hgauges, hsnapshots, hweights, hfees, hbribes, honce⟩
  · intro h
    exact ⟨⟨⟨h.live_fits, h.closed_fits⟩, h.epochGauges, h.snapshots⟩, h.weights,
      ⟨h.fees_fit, h.fees⟩, h.bribes, h.settled_once⟩

end Engine

/-! ## Sound books -/

namespace Engine

variable {e : Engine} {tokens : TokenLedger}

/-- The mint of which the audit checks what an account in custody holds. -/
def auditedMint? (e : Engine) : Custody → Option Address
  | .feeVault target side => (e.registry.gauges.find? target).map fun g => (g.fee side).mint
  | .poolFees _ _ => none
  | .bribeVault id => (e.bribes.bribes.find? id).map Bribe.mint

/-- What the audit checks of accounts: each holds what it has received and not paid out. -/
def VaultsHold (e : Engine) (tokens : TokenLedger) : Prop :=
  ∀ c mint, e.auditedMint? c = some mint →
    (tokens.balance mint c.address).toNat + e.paidOut mint c = e.received mint c

theorem auditedMint?_feeVault {target : Address} {g : Gauge}
    (hgauge : e.registry.gauges.find? target = some g) (side : FeeSide) :
    e.auditedMint? (.feeVault target side) = some (g.fee side).mint := by
  simp [auditedMint?, hgauge]

theorem auditedMint?_bribeVault {id : UInt64} {b : Bribe}
    (hbribe : e.bribes.bribes.find? id = some b) :
    e.auditedMint? (.bribeVault id) = some b.mint := by
  simp [auditedMint?, hbribe]

/-- The vaults in the terms of the records they belong to. -/
theorem vaultsHold_iff :
    e.VaultsHold tokens ↔
      (∀ g ∈ e.registry.gauges.records, ∀ side,
        (tokens.balance (g.fee side).mint (g.feeVault side)).toNat +
          (g.fee side).cumulativeClaimed.toNat = (g.fee side).cumulativeAccrued.toNat) ∧
      ∀ b ∈ e.bribes.bribes.records,
        (tokens.balance b.mint b.vault).toNat + b.claimedAmount.toNat +
          b.clawedBackAmount.toNat = b.rewardPerEpoch.toNat * b.numEpochs.toNat := by
  have hgaugeTerms {g : Gauge} (hgauge : e.registry.gauges.find? g.target = some g)
      (side : FeeSide) :
      e.paidOut (g.fee side).mint (.feeVault g.target side) =
          (g.fee side).cumulativeClaimed.toNat ∧
        e.received (g.fee side).mint (.feeVault g.target side) =
          (g.fee side).cumulativeAccrued.toNat := by
    simp [paidOut_feeVault, received_feeVault, hgauge]
  have hbribeTerms {b : Bribe} (hbribe : e.bribes.bribes.find? b.id = some b) :
      e.paidOut b.mint (.bribeVault b.id) = b.claimedAmount.toNat + b.clawedBackAmount.toNat ∧
        e.received b.mint (.bribeVault b.id) = b.rewardPerEpoch.toNat * b.numEpochs.toNat := by
    simp [paidOut_bribeVault, received_bribeVault, hbribe]
  constructor
  · intro h
    constructor
    · intro g hg side
      have hgauge : e.registry.gauges.find? g.target = some g := Table.find?_key_of_mem hg
      have hheld := h _ _ (auditedMint?_feeVault hgauge side)
      rw [(hgaugeTerms hgauge side).1, (hgaugeTerms hgauge side).2] at hheld
      exact hheld
    · intro b hb
      have hbribe : e.bribes.bribes.find? b.id = some b := Table.find?_key_of_mem hb
      have hheld := h _ _ (auditedMint?_bribeVault hbribe)
      rw [(hbribeTerms hbribe).1, (hbribeTerms hbribe).2, ← Nat.add_assoc] at hheld
      exact hheld
  · rintro ⟨hgauges, hbribes⟩ c mint hmint
    cases c with
    | feeVault target side =>
      obtain ⟨g, hgauge, rfl⟩ := Option.map_eq_some_iff.mp hmint
      obtain rfl := Registry.target_of_find? hgauge
      rw [(hgaugeTerms hgauge side).1, (hgaugeTerms hgauge side).2]
      exact hgauges g (Table.mem_of_find? hgauge) side
    | poolFees target side => cases hmint
    | bribeVault id =>
      obtain ⟨b, hbribe, rfl⟩ := Option.map_eq_some_iff.mp hmint
      obtain rfl := BribeLedger.id_of_find? hbribe
      rw [(hbribeTerms hbribe).1, (hbribeTerms hbribe).2, ← Nat.add_assoc]
      exact hbribes b (Table.mem_of_find? hbribe)

/-- Live and closed allocations to a gauge together are an amount. -/
theorem Sound.allocations_lt (h : e.Sound) (gauge : Address) (epoch : Epoch) :
    e.commitments.liveOn gauge epoch + e.commitments.closedOn gauge epoch < 2 ^ 64 := by
  rw [← h.power.consistent.power_eq]
  exact Commitments.power_lt _ gauge epoch

/-- On sound books there is nothing to say of anything but the vaults. -/
theorem Sound.audited (h : e.Sound) (hvaults : e.VaultsHold tokens) : e.Audited tokens where
  live_fits x _ := by
    have hgauge := h.allocations_lt x.gauge x.epoch
    have hvoter := e.commitments.allocated_lt x.voter x.epoch
    rw [h.power.consistent.allocated_eq] at hvoter
    exact ⟨by omega, by omega⟩
  closed_fits s _ a _ := by
    have hgauge := h.allocations_lt a.gauge s.epoch
    omega
  fees_fit r hr side := by
    -- The fees of the records are part of the counter of their gauge.
    obtain ⟨g, hgauge⟩ := h.power.registered r hr
    have htotal := h.fees.accrued_eq r.gauge g hgauge side
    have hlt := (g.fee side).cumulativeAccrued.toNat_lt
    omega
  epochGauges r hr := by
    have hfound := Commitments.epochGauge?_of_mem hr
    rw [← h.power.consistent.power_eq, ← h.power.consistent.closedPower_eq,
      Commitments.power_of_epochGauge? hfound, Commitments.closedPower_of_epochGauge? hfound]
    exact ⟨rfl, rfl⟩
  snapshots s hs := by
    have hsound := h.power.consistent.snapshots s hs
    have hfound := Commitments.snapshot?_of_mem hs
    have htotal := h.power.consistent.allocated_eq s.voter s.epoch
    rw [Commitments.allocated_of_snapshot? hfound,
      Commitments.closedOf_of_snapshot? hfound] at htotal
    exact ⟨hsound.closed_eq, htotal, hsound.allocated_le⟩
  weights w hw := by
    rw [h.power.balanced w.voter, WeightBook.totalWeight_of_mem hw]
  fees g hg side :=
    ⟨(vaultsHold_iff.mp hvaults).1 g hg side,
      h.fees.accrued_eq g.target g (Table.find?_key_of_mem hg) side⟩
  bribes b hb := ⟨(h.bribes.terms b hb).escrow_lt, (vaultsHold_iff.mp hvaults).2 b hb⟩
  settled_once k hk c hc hkey := h.bribes.exclusive hc hk hkey.1 hkey.2

/-- On sound books the audit passes exactly if the vaults hold what they should. -/
theorem Sound.audit_eq_ok_iff (h : e.Sound) :
    e.audit tokens = .ok () ↔ e.VaultsHold tokens := by
  rw [Engine.audit_eq_ok_iff]
  constructor
  · intro haudited
    exact vaultsHold_iff.mpr ⟨fun g hg side => (haudited.fees g hg side).1,
      fun b hb => (haudited.bribes b hb).2⟩
  · exact h.audited

end Engine

namespace Deployment

variable {S : Set Custody} {d : Deployment}

/-- Accounts in custody are solvent, so the vaults hold what they should. -/
theorem InCustody.vaultsHold (h : InCustody S d) : d.engine.VaultsHold d.tokens := by
  rw [Engine.vaultsHold_iff]
  constructor
  · intro g hg side
    have hgauge : d.engine.registry.gauges.find? g.target = some g := Table.find?_key_of_mem hg
    exact h.solvent.feeVault_eq h.guarded hgauge side
  · intro b hb
    have hbribe : d.engine.bribes.bribes.find? b.id = some b := Table.find?_key_of_mem hb
    exact h.solvent.bribeVault_eq h.guarded hbribe

/-- Sound books and solvent vaults leave the audit nothing to say. -/
theorem InCustody.audited (h : InCustody S d) : d.engine.Audited d.tokens :=
  h.sound.audited h.vaultsHold

/-- After every operation of a segregated run from a new deployment, failed or not, the
audit passes. -/
theorem audit_passes_along_run {foreman : Address} {params : FactoryParams}
    {maxLockSecs : UInt64} (hcreate : create foreman params maxLockSecs = .ok d)
    {run done : List Operation} (hrun : Segregated run) (hdone : done <+: run) :
    (d.afterAll done).audit = .ok () := by
  have hcustody := hrun.inCustody hdone hcreate
  unfold audit
  rw [Engine.audit_eq_ok_iff]
  exact hcustody.audited

theorem audit_passes_along_sample :
    (Sample.deployment.afterAll (Sample.run.take 9)).audit = .ok () ∧
      (Sample.deployment.afterAll Sample.run).audit = .ok () :=
  ⟨audit_passes_along_run Sample.create_deployment Sample.segregated_run
      (List.take_prefix 9 Sample.run),
    audit_passes_along_run Sample.create_deployment Sample.segregated_run
      (List.prefix_refl Sample.run)⟩

end Deployment
end EpochVoting
