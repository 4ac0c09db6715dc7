import EpochVoting.Proofs.Checks

/-!
# What captures, claims and clawbacks amount to

One statement for each computation that precedes a payment: under which conditions it
has a result, and the numbers in that result.  The records that follow a payment are
written by functions that could fail in general; after the computation that precedes
them they do not.
-/

namespace EpochVoting

/-! ## Fees -/

namespace FeeCapture

variable {g : Gauge} {totals : PerSide UInt64} {c : FeeCapture}

theorem computeSide_eq_ok_iff {side : FeeSide} {gain total : UInt64} :
    computeSide g totals side = .ok (gain, total) ↔
      (totals.get side).toNat = gain.toNat + (g.fee side).lastPoolTotal.toNat ∧
      total.toNat = (g.fee side).cumulativeAccrued.toNat + gain.toNat := by
  unfold computeSide
  simp only [bind_eq_ok_iff, demand_eq_ok_iff, Amount.sub?_eq_some_iff,
    Amount.add?_eq_some_iff, pure_eq_ok_iff, Prod.mk.injEq]
  constructor
  · rintro ⟨gain, hgain, total, htotal, rfl, rfl⟩
    exact ⟨hgain, htotal⟩
  · rintro ⟨hgain, htotal⟩
    exact ⟨gain, hgain, total, htotal, rfl, rfl⟩

/-- A capture takes on each side what the pool total has gained. -/
theorem compute_eq_ok_iff :
    compute g totals = .ok c ↔ c.poolTotals = totals ∧ ∀ side,
      (totals.get side).toNat = (c.accrued.get side).toNat + (g.fee side).lastPoolTotal.toNat ∧
      (c.cumulativeAccrued.get side).toNat =
        (g.fee side).cumulativeAccrued.toNat + (c.accrued.get side).toNat := by
  unfold compute
  simp only [bind_eq_ok_iff, pure_eq_ok_iff, PerSide.tryFn_eq_ok_iff]
  constructor
  · rintro ⟨sides, hsides, rfl⟩
    refine ⟨rfl, fun side => ?_⟩
    simp only [PerSide.get_ofFn]
    exact computeSide_eq_ok_iff.mp (hsides side)
  · rintro ⟨rfl, hsides⟩
    refine ⟨PerSide.ofFn fun side => (c.accrued.get side, c.cumulativeAccrued.get side),
      fun side => ?_, ?_⟩
    · rw [PerSide.get_ofFn]
      exact computeSide_eq_ok_iff.mpr (hsides side)
    · simp only [PerSide.get_ofFn]
      rfl

@[simp] theorem apply_target : (c.apply g).target = g.target :=
  rfl

@[simp] theorem fee_apply (side : FeeSide) :
    (c.apply g).fee side = { g.fee side with
      lastPoolTotal := c.poolTotals.get side
      cumulativeAccrued := c.cumulativeAccrued.get side } :=
  PerSide.get_ofFn ..

end FeeCapture

namespace FeeClaim

variable {g : Gauge} {record : EpochGauge} {s : Snapshot} {allocation : Option UInt64}
  {side : FeeSide} {c : FeeClaim}

theorem compute_eq_ok_none_iff :
    compute g record s allocation side = .ok none ↔
      s.feeClaimed g.target side = false ∧ record.totalPower = 0 := by
  unfold compute
  rw [bind_eq_ok_iff]
  simp only [require_passes_iff, Bool.not_eq_true', exists_const]
  by_cases hzero : record.totalPower = 0
  · rw [if_pos hzero]
    exact ⟨fun h => ⟨h.1, hzero⟩, fun h => ⟨h.1, rfl⟩⟩
  · rw [if_neg hzero]
    simp only [bind_eq_ok_iff, pure_eq_ok_iff, reduceCtorEq, and_false, exists_const, hzero]

/-- A claim is the voter's part of the fees, which the gauge's counter can take. -/
theorem compute_eq_ok_some_iff :
    compute g record s allocation side = .ok (some c) ↔
      s.feeClaimed g.target side = false ∧ record.totalPower ≠ 0 ∧
      ∃ a, allocation = some a ∧ c.side = side ∧
        c.share.toNat =
          (record.accruedFee side).toNat * a.toNat / record.totalPower.toNat ∧
        c.cumulativeClaimed.toNat =
          (g.fee side).cumulativeClaimed.toNat + c.share.toNat := by
  unfold compute
  rw [bind_eq_ok_iff]
  simp only [require_passes_iff, Bool.not_eq_true', exists_const]
  by_cases hzero : record.totalPower = 0
  · rw [if_pos hzero]
    simp only [pure_eq_ok_iff, reduceCtorEq, and_false, hzero, ne_eq, not_true_eq_false,
      false_and]
  · rw [if_neg hzero]
    simp only [bind_eq_ok_iff, demand_eq_ok_iff, Amount.share?_eq_some_iff,
      Amount.add?_eq_some_iff, pure_eq_ok_iff, Option.some.injEq]
    constructor
    · rintro ⟨hflag, a, rfl, share, hshare, total, htotal, rfl⟩
      exact ⟨hflag, hzero, a, rfl, rfl, hshare, htotal⟩
    · rintro ⟨hflag, -, a, rfl, rfl, hshare, htotal⟩
      exact ⟨hflag, a, rfl, c.share, hshare, c.cumulativeClaimed, htotal, rfl⟩

@[simp] theorem applyToGauge_target : (c.applyToGauge g).target = g.target :=
  rfl

theorem fee_applyToGauge_self :
    (c.applyToGauge g).fee c.side =
      { g.fee c.side with cumulativeClaimed := c.cumulativeClaimed } :=
  PerSide.get_set_self ..

theorem fee_applyToGauge_of_ne (h : c.side ≠ side) :
    (c.applyToGauge g).fee side = g.fee side :=
  PerSide.get_set_of_ne _ _ h

end FeeClaim

namespace Gauge

variable {g : Gauge} {record : EpochGauge} {pruned : PerSide UInt64}

theorem prunedTotals_eq_ok_iff :
    g.prunedTotals record = .ok pruned ↔ ∀ side,
      (pruned.get side).toNat =
        (g.fee side).prunedAccrued.toNat + (record.accruedFee side).toNat := by
  unfold prunedTotals
  simp only [PerSide.tryFn_eq_ok_iff, demand_eq_ok_iff, Amount.add?_eq_some_iff]

@[simp] theorem setPruned_target : (g.setPruned pruned).target = g.target :=
  rfl

@[simp] theorem fee_setPruned (side : FeeSide) :
    (g.setPruned pruned).fee side =
      { g.fee side with prunedAccrued := pruned.get side } :=
  PerSide.get_ofFn ..

end Gauge

/-! ## Bribes -/

theorem Bribe.prepare_eq_ok_iff {id : UInt64} {gauge briber mint : Address}
    {rewardPerEpoch : UInt64} {currentEpoch epochEnd : Epoch} {b : Bribe} :
    prepare id gauge briber mint rewardPerEpoch currentEpoch epochEnd = .ok b ↔
      b = { id, gauge, briber, mint, rewardPerEpoch, epochStart := currentEpoch, epochEnd,
            claimedAmount := 0, clawedBackAmount := 0 } ∧
      currentEpoch < epochEnd ∧ rewardPerEpoch ≠ 0 ∧ ∃ escrowed, b.totalEscrow = .ok escrowed := by
  unfold prepare
  simp only [bind_eq_ok_iff, require_passes_iff, decide_eq_true_iff, bne_iff_ne,
    pure_eq_ok_iff, exists_const]
  constructor
  · rintro ⟨hrange, hreward, escrowed, hescrow, rfl⟩
    exact ⟨rfl, hrange, hreward, escrowed, hescrow⟩
  · rintro ⟨rfl, hrange, hreward, escrowed, hescrow⟩
    exact ⟨hrange, hreward, escrowed, hescrow, rfl⟩

namespace BribeLedger

variable {l l' : BribeLedger} {voter authority : Address} {id : UInt64} {epoch : Epoch}
  {totalPower : UInt64} {allocation : Option UInt64} {b : Bribe}

/-- A claim is the voter's part of the reward of a covered epoch with power. -/
theorem checkClaim_eq_ok_iff {c : BribeClaim} (hb : l.bribes.find? id = some b) :
    l.checkClaim voter id epoch totalPower allocation = .ok c ↔
      c.voter = voter ∧ c.bribe = id ∧ c.epoch = epoch ∧
      b.covers epoch = true ∧ l.isClaimed voter id epoch = false ∧ totalPower ≠ 0 ∧
      ∃ a, allocation = some a ∧
        c.amount.toNat = b.rewardPerEpoch.toNat * a.toNat / totalPower.toNat ∧
        b.claimedAmount.toNat + c.amount.toNat < 2 ^ 64 := by
  unfold checkClaim
  simp only [bind_eq_ok_iff, get_eq_ok_iff, hb, Option.some.injEq, exists_eq_left',
    Bribe.requireCovers_eq_ok_iff, require_passes_iff, Bool.not_eq_true', bne_iff_ne,
    demand_eq_ok_iff, Amount.share?_eq_some_iff, Amount.add?_eq_some_iff, pure_eq_ok_iff,
    exists_const]
  constructor
  · rintro ⟨hcovers, hnew, hpower, a, rfl, amount, hamount, total, htotal, rfl⟩
    exact ⟨rfl, rfl, rfl, hcovers, hnew, hpower, a, rfl, hamount, htotal ▸ total.toNat_lt⟩
  · rintro ⟨rfl, rfl, rfl, hcovers, hnew, hpower, a, rfl, hamount, hfits⟩
    exact ⟨hcovers, hnew, hpower, a, rfl, c.amount, hamount, _, Amount.toNat_ofNat hfits, rfl⟩

theorem recordClaim_eq_ok_iff {c : BribeClaim} (hb : l.bribes.find? c.bribe = some b) :
    l.recordClaim c = .ok l' ↔ ∃ total : UInt64,
      total.toNat = b.claimedAmount.toNat + c.amount.toNat ∧
      l' = { l with
        bribes := l.bribes.insert { b with claimedAmount := total }
        claims := l.claims.insert c } := by
  unfold recordClaim
  simp only [bind_eq_ok_iff, get_eq_ok_iff, hb, Option.some.injEq, exists_eq_left',
    demand_eq_ok_iff, Amount.add?_eq_some_iff, pure_eq_ok_iff]
  constructor
  · rintro ⟨total, htotal, rfl⟩
    exact ⟨total, htotal, rfl⟩
  · rintro ⟨total, htotal, rfl⟩
    exact ⟨total, htotal, rfl⟩

/-- A clawback is the whole reward of a covered epoch without power. -/
theorem checkClawback_eq_ok_iff {k : BribeClawback} (hb : l.bribes.find? id = some b) :
    l.checkClawback authority id epoch totalPower = .ok k ↔
      k = { bribe := id, epoch, amount := b.rewardPerEpoch } ∧
      authority = b.briber ∧ b.covers epoch = true ∧ totalPower = 0 ∧
      l.isClawedBack id epoch = false ∧
      b.clawedBackAmount.toNat + b.rewardPerEpoch.toNat < 2 ^ 64 := by
  unfold checkClawback
  simp only [bind_eq_ok_iff, get_eq_ok_iff, hb, Option.some.injEq, exists_eq_left',
    Bribe.requireCovers_eq_ok_iff, require_passes_iff, Bool.not_eq_true', beq_iff_eq,
    demand_eq_ok_iff, Amount.add?_eq_some_iff, pure_eq_ok_iff, exists_const]
  constructor
  · rintro ⟨hbriber, hcovers, hpower, hnew, total, htotal, rfl⟩
    exact ⟨rfl, hbriber, hcovers, hpower, hnew, htotal ▸ total.toNat_lt⟩
  · rintro ⟨rfl, hbriber, hcovers, hpower, hnew, hfits⟩
    exact ⟨hbriber, hcovers, hpower, hnew, _, Amount.toNat_ofNat hfits, rfl⟩

theorem recordClawback_eq_ok_iff {k : BribeClawback} (hb : l.bribes.find? k.bribe = some b) :
    l.recordClawback k = .ok l' ↔ ∃ total : UInt64,
      total.toNat = b.clawedBackAmount.toNat + k.amount.toNat ∧
      l' = { l with
        bribes := l.bribes.insert { b with clawedBackAmount := total }
        clawbacks := l.clawbacks.insert k } := by
  unfold recordClawback
  simp only [bind_eq_ok_iff, get_eq_ok_iff, hb, Option.some.injEq, exists_eq_left',
    demand_eq_ok_iff, Amount.add?_eq_some_iff, pure_eq_ok_iff]
  constructor
  · rintro ⟨total, htotal, rfl⟩
    exact ⟨total, htotal, rfl⟩
  · rintro ⟨total, htotal, rfl⟩
    exact ⟨total, htotal, rfl⟩

/-- A checked claim can be recorded. -/
theorem recordClaim_of_checkClaim {c : BribeClaim} (hb : l.bribes.find? id = some b)
    (h : l.checkClaim voter id epoch totalPower allocation = .ok c) :
    ∃ l', l.recordClaim c = .ok l' := by
  obtain ⟨-, hid, -, -, -, -, a, -, -, hfits⟩ := (checkClaim_eq_ok_iff hb).mp h
  exact ⟨_, (recordClaim_eq_ok_iff (hid ▸ hb)).mpr ⟨_, Amount.toNat_ofNat hfits, rfl⟩⟩

/-- A checked clawback can be recorded. -/
theorem recordClawback_of_checkClawback {k : BribeClawback}
    (hb : l.bribes.find? id = some b)
    (h : l.checkClawback authority id epoch totalPower = .ok k) :
    ∃ l', l.recordClawback k = .ok l' := by
  obtain ⟨rfl, -, -, -, -, hfits⟩ := (checkClawback_eq_ok_iff hb).mp h
  exact ⟨_, (recordClawback_eq_ok_iff hb).mpr ⟨_, Amount.toNat_ofNat hfits, rfl⟩⟩

end BribeLedger
end EpochVoting
