import EpochVoting.Proofs.FeeFlags
import EpochVoting.Proofs.Settlement

/-!
# The fee counters of the gauges

What a gauge has ever accrued is in its records or pruned, and what was ever claimed is
the sum of the parts that the flags stand for (`Change.feesSound`).  No epoch pays out
more than its own fees, so the sum can be split by epochs: what a gauge still owes is,
epoch by epoch, the part of the fees that has not been claimed.
-/

namespace EpochVoting

@[simp] theorem Gauge.fee_starting (target : Address) (mints : PerSide Address)
    (poolTotals : PerSide UInt64) (side : FeeSide) :
    (Gauge.starting target mints poolTotals).fee side =
      FeeCounter.starting (mints.get side) (poolTotals.get side) :=
  PerSide.get_ofFn ..

namespace Registry

variable {r : Registry} {g g' : Gauge} {name target : Address}

theorem find?_put (r : Registry) (g : Gauge) (target : Address) :
    (r.put g).gauges.find? target = if g.target = target then some g else r.gauges.find? target :=
  Table.find?_insert_ite r.gauges g target

/-- What is found after a gauge was put: that gauge, or what was found before. -/
theorem of_find?_put (hname : g.target = name) (h : (r.put g).gauges.find? target = some g') :
    (name = target ∧ g' = g) ∨ (name ≠ target ∧ r.gauges.find? target = some g') := by
  subst hname
  rw [find?_put] at h
  by_cases hkey : g.target = target
  · rw [if_pos hkey] at h
    exact Or.inl ⟨hkey, (Option.some.inj h).symm⟩
  · rw [if_neg hkey] at h
    exact Or.inr ⟨hkey, h⟩

end Registry

namespace Engine

variable {e e' : Engine}

/-- The counters of the gauges agree with the records and with the flags. -/
structure FeesSound (e : Engine) : Prop where
  flags : e.commitments.FlagsSound e.currentEpoch
  accrued_eq : ∀ target g, e.registry.gauges.find? target = some g → ∀ side,
    e.commitments.feesOn target side + (g.fee side).prunedAccrued.toNat =
      (g.fee side).cumulativeAccrued.toNat
  claimed_eq : ∀ target g, e.registry.gauges.find? target = some g → ∀ side,
    (g.fee side).cumulativeClaimed.toNat = e.commitments.paidOn target side

/-- A change that leaves the counters, the fees and the payments as they are. -/
theorem FeesSound.keep (h : e.FeesSound)
    (hflags : e'.commitments.FlagsSound e'.currentEpoch) (hregistry : e'.registry = e.registry)
    (hfees : ∀ target side, e'.commitments.feesOn target side =
      e.commitments.feesOn target side)
    (hpaid : ∀ target side, e'.commitments.paidOn target side =
      e.commitments.paidOn target side) : e'.FeesSound := by
  refine ⟨hflags, fun target g hg side => ?_, fun target g hg side => ?_⟩
  · rw [hregistry] at hg
    rw [hfees]
    exact h.accrued_eq target g hg side
  · rw [hregistry] at hg
    rw [hpaid]
    exact h.claimed_eq target g hg side

/-- A snapshot is written that has the flags of the one it replaces. -/
theorem FeesSound.keepFlags {s : Snapshot} (h : e.FeesSound)
    (hfinal : Commitments.AgreeBefore e.currentEpoch e.commitments e'.commitments)
    (hfactory : e'.factory = e.factory) (hregistry : e'.registry = e.registry)
    (hsnapshots : e'.commitments.snapshots = e.commitments.snapshots.insert s)
    (hsame : e.commitments.SameFlags s)
    (hfees : ∀ target side, e'.commitments.feesOn target side =
      e.commitments.feesOn target side) : e'.FeesSound := by
  have hclock : e'.currentEpoch = e.currentEpoch := by
    unfold currentEpoch
    rw [hfactory]
  refine h.keep ?_ hregistry hfees fun _ _ => ?_
  · rw [hclock]
    exact h.flags.put hfinal hsnapshots hsame
  · exact Commitments.paidOn_put h.flags hfinal hsnapshots hsame

/-- One gauge is put.  Its counters agree with its sums, and the sums of the others are as
they were. -/
theorem FeesSound.putGauge {target : Address} {g : Gauge} (h : e.FeesSound)
    (hflags : e'.commitments.FlagsSound e'.currentEpoch) (htarget : g.target = target)
    (hregistry : e'.registry = e.registry.put g)
    (hothers : ∀ other, target ≠ other → ∀ side,
      e'.commitments.feesOn other side = e.commitments.feesOn other side ∧
        e'.commitments.paidOn other side = e.commitments.paidOn other side)
    (hown : ∀ side, e'.commitments.feesOn target side + (g.fee side).prunedAccrued.toNat =
        (g.fee side).cumulativeAccrued.toNat ∧
      (g.fee side).cumulativeClaimed.toNat = e'.commitments.paidOn target side) :
    e'.FeesSound := by
  refine ⟨hflags, fun name g' hg' side => ?_, fun name g' hg' side => ?_⟩
  · rw [hregistry] at hg'
    rcases Registry.of_find?_put htarget hg' with ⟨rfl, rfl⟩ | ⟨hne, hg'⟩
    · exact (hown side).1
    · rw [(hothers name hne side).1]
      exact h.accrued_eq name g' hg' side
  · rw [hregistry] at hg'
    rcases Registry.of_find?_put htarget hg' with ⟨rfl, rfl⟩ | ⟨hne, hg'⟩
    · exact (hown side).2
    · rw [(hothers name hne side).2]
      exact h.claimed_eq name g' hg' side

/-- Only a registered gauge has records. -/
theorem PowerSound.no_records {target : Address} (h : e.PowerSound)
    (hnone : e.registry.gauges.find? target = none) :
    ∀ r ∈ e.commitments.epochGauges.records, r.gauge ≠ target := by
  rintro r hr rfl
  obtain ⟨g, hg⟩ := h.registered r hr
  rw [hnone] at hg
  cases hg

/-! ## Writes of gauges -/

section

variable {g : Gauge} {r : EpochGauge} {s : Snapshot} {epoch : Epoch}

theorem FeesSound.createGauge {target : Address} {mints : PerSide Address}
    {totals : PerSide UInt64} (h : e.FeesSound) (hpower : e.PowerSound)
    (hnone : e.registry.gauges.find? target = none) :
    ({ e with registry := e.registry.put (.starting target mints totals) } : Engine).FeesSound := by
  have hrecords := hpower.no_records hnone
  refine h.putGauge h.flags rfl rfl (fun _ _ _ => ⟨rfl, rfl⟩) fun side => ?_
  rw [Gauge.fee_starting]
  have hfees : e.commitments.feesOn target side = 0 := Commitments.feesOn_eq_zero hrecords
  have hpaid : e.commitments.paidOn target side = 0 := h.flags.paidOn_eq_zero hrecords
  exact ⟨Nat.add_eq_zero_iff.mpr ⟨hfees, rfl⟩, hpaid.symm⟩

/-- The counter grows by the fees of the new record. -/
theorem FeesSound.capture {totals : PerSide UInt64} {capture : FeeCapture} (h : e.FeesSound)
    (hfinal : Commitments.AgreeBefore e.currentEpoch e.commitments
      (e.recordCapture g epoch capture).commitments)
    (hgauge : e.registry.gauges.find? g.target = some g)
    (hnone : e.commitments.epochGauge? g.target epoch = none)
    (hcapture : FeeCapture.compute g totals = .ok capture) :
    (e.recordCapture g epoch capture).FeesSound := by
  obtain ⟨-, hsides⟩ := FeeCapture.compute_eq_ok_iff.mp hcapture
  have hfees (name : Address) (side : FeeSide) :
      (e.recordCapture g epoch capture).commitments.feesOn name side =
        e.commitments.feesOn name side +
          if g.target = name then (capture.accrued.get side).toNat else 0 :=
    Commitments.feesOn_new (r := .fresh g.target epoch capture.accrued) hnone rfl
  have hpaid (name : Address) (side : FeeSide) :
      (e.recordCapture g epoch capture).commitments.paidOn name side =
        e.commitments.paidOn name side :=
    Commitments.paidOn_agree h.flags hfinal rfl
  refine h.putGauge (h.flags.agree hfinal rfl) FeeCapture.apply_target rfl
    (fun name hne side => ⟨by rw [hfees, if_neg hne, Nat.add_zero], hpaid name side⟩)
    fun side => ?_
  rw [FeeCapture.fee_apply, hfees, if_pos rfl, hpaid]
  have haccrued := h.accrued_eq g.target g hgauge side
  have htotal := (hsides side).2
  refine ⟨?_, h.claimed_eq g.target g hgauge side⟩
  show _ + _ + (g.fee side).prunedAccrued.toNat = (capture.cumulativeAccrued.get side).toNat
  omega

/-- What leaves the records is counted as pruned. -/
theorem FeesSound.clean {pruned : PerSide UInt64} (h : e.FeesSound)
    (hfinal : Commitments.AgreeBefore e.currentEpoch e.commitments
      (e.recordClean g epoch pruned).commitments)
    (hgauge : e.registry.gauges.find? g.target = some g)
    (hr : e.commitments.epochGauge? g.target epoch = some r)
    (hpruned : g.prunedTotals r = .ok pruned) : (e.recordClean g epoch pruned).FeesSound := by
  have hfees (name : Address) (side : FeeSide) :
      (e.recordClean g epoch pruned).commitments.feesOn name side +
          (if g.target = name then (r.accruedFee side).toNat else 0) =
        e.commitments.feesOn name side :=
    Commitments.feesOn_erase hr rfl
  have hpaid (name : Address) (side : FeeSide) :
      (e.recordClean g epoch pruned).commitments.paidOn name side =
        e.commitments.paidOn name side :=
    Commitments.paidOn_agree h.flags hfinal rfl
  refine h.putGauge (h.flags.agree hfinal rfl) Gauge.setPruned_target rfl
    (fun name hne side => ⟨?_, hpaid name side⟩) fun side => ?_
  · have hsame := hfees name side
    rwa [if_neg hne, Nat.add_zero] at hsame
  · rw [Gauge.fee_setPruned, hpaid]
    have haccrued := h.accrued_eq g.target g hgauge side
    have htotal := Gauge.prunedTotals_eq_ok_iff.mp hpruned side
    have herased := hfees g.target side
    rw [if_pos rfl] at herased
    refine ⟨?_, h.claimed_eq g.target g hgauge side⟩
    show _ + (pruned.get side).toNat = (g.fee side).cumulativeAccrued.toNat
    omega

/-- The share that is paid is the part that the flag stands for. -/
theorem FeesSound.claimFee {side : FeeSide} {claim : FeeClaim} (h : e.FeesSound)
    (hfinal : Commitments.AgreeBefore e.currentEpoch e.commitments
      (e.recordFeeClaim g s claim).commitments) (helapsed : s.epoch < e.currentEpoch)
    (hgauge : e.registry.gauges.find? g.target = some g)
    (hr : e.commitments.epochGauge? g.target s.epoch = some r)
    (hs : e.commitments.snapshot? s.voter s.epoch = some s)
    (hclaim : FeeClaim.compute g r s (e.commitments.allocation? s.voter g.target s.epoch) side =
      .ok (some claim)) : (e.recordFeeClaim g s claim).FeesSound := by
  obtain ⟨hnew, hpositive, a, ha, rfl, hshare, htotal⟩ :=
    FeeClaim.compute_eq_ok_some_iff.mp hclaim
  have hne : e.commitments.power g.target s.epoch ≠ 0 := by
    rw [Commitments.power_of_epochGauge? hr]
    exact fun hzero => hpositive (UInt64.toNat_inj.mp hzero)
  have hpart : claim.share.toNat =
      e.commitments.feeShare s.voter g.target s.epoch claim.side := by
    unfold Commitments.feeShare Commitments.allocationOf
    rw [Commitments.feesAt_of_epochGauge? hr, Commitments.power_of_epochGauge? hr, ha]
    exact hshare
  have hpaid (name : Address) (side : FeeSide) :
      (e.recordFeeClaim g s claim).commitments.paidOn name side =
        e.commitments.paidOn name side +
          if g.target = name ∧ claim.side = side then
            e.commitments.feeShare s.voter g.target s.epoch claim.side
          else 0 :=
    Commitments.paidOn_mark h.flags hfinal hs rfl hnew helapsed hne
  refine h.putGauge (h.flags.mark hfinal hs rfl helapsed hne ha) FeeClaim.applyToGauge_target rfl
    (fun name hother side => ⟨rfl, by rw [hpaid, if_neg fun hkey => hother hkey.1]; rfl⟩)
    fun side => ?_
  have haccrued := h.accrued_eq g.target g hgauge side
  have hclaimed := h.claimed_eq g.target g hgauge side
  rw [hpaid]
  by_cases hside : claim.side = side
  · subst hside
    rw [FeeClaim.fee_applyToGauge_self, if_pos ⟨rfl, rfl⟩]
    refine ⟨haccrued, ?_⟩
    show claim.cumulativeClaimed.toNat = _
    omega
  · rw [FeeClaim.fee_applyToGauge_of_ne hside, if_neg fun hkey => hside hkey.2]
    exact ⟨haccrued, hclaimed⟩

end

/-- Every change keeps the fee counters sound. -/
theorem Change.feesSound (h : e.Change e') (hpower : e.PowerSound) (hsound : e.FeesSound) :
    e'.FeesSound := by
  have hfinal := h.final
  have hflags := hsound.flags
  cases h with
  | clock hepoch _ hcount =>
    exact hsound.keep (hflags.advance hepoch) rfl (fun _ _ => rfl) fun _ _ => rfl
  | gaugeCreated hnone => exact hsound.createGauge hpower hnone
  | @gaugeSwitched target g enabled hgauge =>
    obtain rfl := Registry.target_of_find? hgauge
    exact hsound.putGauge hflags rfl rfl (fun _ _ _ => ⟨rfl, rfl⟩) fun side =>
      ⟨hsound.accrued_eq g.target g hgauge side, hsound.claimed_eq g.target g hgauge side⟩
  | weightSet hgauge hset =>
    exact hsound.keep hflags rfl (fun _ _ => rfl) fun _ _ => rfl
  | snapshotTaken hnone =>
    exact hsound.keepFlags hfinal rfl rfl rfl (Commitments.sameFlags_of_none hnone rfl)
      fun _ _ => rfl
  | snapshotReset hs hzero =>
    have hsold := Commitments.snapshot?_self hs
    exact hsound.keepFlags hfinal rfl rfl rfl (Commitments.sameFlags_of_some hsold rfl)
      fun _ _ => rfl
  | captured hgauge henabled hnone hcapture =>
    obtain rfl := Registry.target_of_find? hgauge
    exact hsound.capture hfinal hgauge hnone hcapture
  | committed hepoch hgauge henabled hnone hs hseqno hr =>
    have hrold := Commitments.epochGauge?_self hr
    have hsold := Commitments.snapshot?_self hs
    exact hsound.keepFlags hfinal rfl rfl rfl (Commitments.sameFlags_of_some hsold rfl)
      fun _ _ => Commitments.feesOn_replace rfl hrold rfl
  | reverted hepoch hx hr hs =>
    have hrold := Commitments.epochGauge?_self hr
    have hsold := Commitments.snapshot?_self hs
    exact hsound.keepFlags hfinal rfl rfl rfl (Commitments.sameFlags_of_some hsold rfl)
      fun _ _ => Commitments.feesOn_replace rfl hrold rfl
  | closed helapsed hx hr hs =>
    have hrold := Commitments.epochGauge?_self hr
    have hsold := Commitments.snapshot?_self hs
    exact hsound.keepFlags hfinal rfl rfl rfl (Commitments.sameFlags_of_some hsold rfl)
      fun _ _ => Commitments.feesOn_replace rfl hrold rfl
  | cleaned helapsed hr hzero hgauge hpruned =>
    obtain rfl := Registry.target_of_find? hgauge
    exact hsound.clean hfinal hgauge hr hpruned
  | feeClaimed helapsed hgauge hr hs hclaim =>
    obtain rfl := Registry.target_of_find? hgauge
    obtain ⟨rfl, rfl⟩ := Commitments.key_of_snapshot? hs
    exact hsound.claimFee hfinal helapsed hgauge hr hs hclaim
  | bribeCreated hgauge hid hbribe =>
    exact hsound.keep hflags rfl (fun _ _ => rfl) fun _ _ => rfl
  | bribeClaimed helapsed hbribe hclaim hrecorded =>
    exact hsound.keep hflags rfl (fun _ _ => rfl) fun _ _ => rfl
  | bribeReturned helapsed hbribe hclawback hrecorded =>
    exact hsound.keep hflags rfl (fun _ _ => rfl) fun _ _ => rfl

end Engine
end EpochVoting
