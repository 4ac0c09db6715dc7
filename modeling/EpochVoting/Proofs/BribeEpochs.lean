import EpochVoting.Proofs.BribeBooks
import EpochVoting.Proofs.Shares
import Mathlib.Data.List.Nodup

/-!
# Bribes epoch by epoch

A covered epoch is settled by claims, by a clawback, or not yet, and never by both.
Either way it takes no more than the reward out of the escrow.  Summed over the covered
epochs, what a bribe has not yet paid is enough for every epoch that is still to be
settled.
-/

namespace EpochVoting

namespace Bribe

variable {b : Bribe} {epoch : Epoch}

/-- The rewarded epochs. -/
def coveredEpochs (b : Bribe) : List Epoch :=
  (List.range b.numEpochs.toNat).map fun n => UInt32.ofNat (b.epochStart.toNat + n)

theorem toNat_numEpochs (b : Bribe) :
    b.numEpochs.toNat = b.epochEnd.toNat - b.epochStart.toNat :=
  Epoch.toNat_countUntil ..

theorem length_coveredEpochs (b : Bribe) : b.coveredEpochs.length = b.numEpochs.toNat := by
  unfold coveredEpochs
  rw [List.length_map, List.length_range]

/-- The number of an epoch that lies in the range. -/
theorem toNat_coveredEpoch {n : Nat} (h : n < b.numEpochs.toNat) :
    (UInt32.ofNat (b.epochStart.toNat + n)).toNat = b.epochStart.toNat + n := by
  have hend := b.epochEnd.toNat_lt
  rw [toNat_numEpochs] at h
  exact UInt32.toNat_ofNat_of_lt' (show _ < 2 ^ 32 by omega)

theorem mem_coveredEpochs : epoch ∈ b.coveredEpochs ↔ b.covers epoch = true := by
  have hcount := toNat_numEpochs b
  unfold coveredEpochs
  rw [covers_eq_true_iff, List.mem_map, UInt32.le_iff_toNat_le, UInt32.lt_iff_toNat_lt]
  constructor
  · rintro ⟨n, hn, rfl⟩
    rw [List.mem_range] at hn
    rw [toNat_coveredEpoch hn]
    omega
  · rintro ⟨hstart, hend⟩
    refine ⟨epoch.toNat - b.epochStart.toNat, List.mem_range.mpr (by omega), ?_⟩
    rw [Nat.add_sub_cancel' hstart, UInt32.ofNat_toNat]

theorem nodup_coveredEpochs (b : Bribe) : b.coveredEpochs.Nodup := by
  refine List.Nodup.map_on (fun m hm n hn heq => ?_) List.nodup_range
  have htoNat := congrArg UInt32.toNat heq
  rw [toNat_coveredEpoch (List.mem_range.mp hm),
    toNat_coveredEpoch (List.mem_range.mp hn)] at htoNat
  omega

/-- A sum over the settlements of a bribe, taken epoch by epoch. -/
theorem total_by_epochs {ρ κ : Type} [Keyed ρ κ] [Ord κ] (b : Bribe) (t : Table ρ)
    (p : ρ → Prop) [DecidablePred p] (epochOf : ρ → Epoch) (f : ρ → Nat)
    (hcovers : ∀ k ∈ t.records, p k → b.covers (epochOf k) = true) :
    (t.total fun k => if p k then f k else 0) =
      (b.coveredEpochs.map fun epoch =>
        t.total fun k => if p k ∧ epochOf k = epoch then f k else 0).sum := by
  have hparts := t.total_by (fun k => if p k then f k else 0) epochOf b.nodup_coveredEpochs
    fun k hk hne => by
      have hcounted : p k := by
        by_contra hnot
        exact hne (if_neg hnot)
      exact mem_coveredEpochs.mpr (hcovers k hk hcounted)
  refine hparts.trans (congrArg List.sum (List.map_congr_left fun epoch _ => ?_))
  refine Table.total_congr fun k _ => ?_
  by_cases hepoch : epochOf k = epoch
  · simp only [hepoch, and_true, if_true]
  · simp only [hepoch, and_false, if_false]

end Bribe

namespace BribeLedger

variable {l : BribeLedger} {id : UInt64} {epoch : Epoch}

theorem mem_settledEpochs :
    epoch ∈ l.settledEpochs id ↔
      (∃ k ∈ l.claims.records, k.bribe = id ∧ k.epoch = epoch) ∨
      ∃ k ∈ l.clawbacks.records, k.bribe = id ∧ k.epoch = epoch := by
  unfold settledEpochs
  rw [List.mem_eraseDups, List.mem_mergeSort, List.mem_append]
  simp only [List.mem_map, List.mem_filter, beq_iff_eq, and_assoc]

/-- What was claimed of a bribe for an epoch. -/
def claimedIn (l : BribeLedger) (id : UInt64) (epoch : Epoch) : Nat :=
  l.claims.total fun k => if k.bribe = id ∧ k.epoch = epoch then k.amount.toNat else 0

/-- What was clawed back of a bribe for an epoch. -/
def clawedBackIn (l : BribeLedger) (id : UInt64) (epoch : Epoch) : Nat :=
  l.clawbacks.total fun k => if k.bribe = id ∧ k.epoch = epoch then k.amount.toNat else 0

theorem claimedIn_eq_zero (h : ¬ ∃ k ∈ l.claims.records, k.bribe = id ∧ k.epoch = epoch) :
    l.claimedIn id epoch = 0 :=
  Table.total_eq_zero_iff.mpr fun k hk => if_neg fun hkey => h ⟨k, hk, hkey⟩

theorem clawedBackIn_eq_zero
    (h : ¬ ∃ k ∈ l.clawbacks.records, k.bribe = id ∧ k.epoch = epoch) :
    l.clawedBackIn id epoch = 0 :=
  Table.total_eq_zero_iff.mpr fun k hk => if_neg fun hkey => h ⟨k, hk, hkey⟩

/-- The covered epochs of a bribe that have neither a claim nor a clawback. -/
def unsettledEpochs (l : BribeLedger) (b : Bribe) : List Epoch :=
  b.coveredEpochs.filter fun epoch => !decide (epoch ∈ l.settledEpochs b.id)

end BribeLedger

namespace Engine

variable {e : Engine}

open Commitments BribeLedger

namespace BribesSound

variable {id : UInt64} {b : Bribe} {epoch : Epoch}

/-- The claims on a bribe are sound for that bribe. -/
theorem claim_sound (h : e.BribesSound) (hb : e.bribes.bribes.find? id = some b)
    {k : BribeClaim} (hk : k ∈ e.bribes.claims.records) (hid : k.bribe = id) :
    k.Sound b e.commitments e.currentEpoch := by
  obtain ⟨b', hb', hsound⟩ := h.claims k hk
  rw [hid, hb] at hb'
  cases hb'
  exact hsound

theorem clawback_sound (h : e.BribesSound) (hb : e.bribes.bribes.find? id = some b)
    {k : BribeClawback} (hk : k ∈ e.bribes.clawbacks.records) (hid : k.bribe = id) :
    k.Sound b e.commitments e.currentEpoch := by
  obtain ⟨b', hb', hsound⟩ := h.clawbacks k hk
  rw [hid, hb] at hb'
  cases hb'
  exact hsound

/-- No epoch of a bribe is settled both ways. -/
theorem exclusive (h : e.BribesSound) {k : BribeClaim} {w : BribeClawback}
    (hk : k ∈ e.bribes.claims.records) (hw : w ∈ e.bribes.clawbacks.records)
    (hid : k.bribe = w.bribe) : k.epoch ≠ w.epoch := by
  intro hepoch
  obtain ⟨b, hb, hsound⟩ := h.claims k hk
  have hwsound := h.clawback_sound hb hw hid.symm
  exact hsound.power_ne_zero (hepoch ▸ hwsound.power_eq_zero)

/-- What was claimed for an epoch are the parts of the voters who claimed. -/
theorem claimedIn_eq (h : e.BribesSound) (hb : e.bribes.bribes.find? id = some b)
    (epoch : Epoch) : e.bribes.claimedIn id epoch =
      (e.bribes.claims.records.map fun k => if k.bribe = id ∧ k.epoch = epoch then
        b.rewardPerEpoch.toNat * e.commitments.allocationOf k.voter b.gauge epoch /
          e.commitments.power b.gauge epoch else 0).sum := by
  refine Table.total_congr fun k hk => ?_
  by_cases hkey : k.bribe = id ∧ k.epoch = epoch
  · rw [if_pos hkey, if_pos hkey, (h.claim_sound hb hk hkey.1).amount_eq, hkey.2]
  · rw [if_neg hkey, if_neg hkey]

/-- The claims for an epoch stay within its reward. -/
theorem claimedIn_le (h : e.BribesSound) (hpower : e.PowerSound)
    (hb : e.bribes.bribes.find? id = some b) (epoch : Epoch) :
    e.bribes.claimedIn id epoch ≤ b.rewardPerEpoch.toNat := by
  rw [h.claimedIn_eq hb epoch]
  exact hpower.consistent.shares_le (p := fun k : BribeClaim => k.bribe = id ∧ k.epoch = epoch)
    BribeClaim.voter b.gauge epoch e.bribes.claims.nodup_records
    (fun k hk k' hk' hkey hkey' hvoter => Table.eq_of_key_eq hk hk' (Prod.ext hvoter
      (Prod.ext (hkey.1.trans hkey'.1.symm) (hkey.2.trans hkey'.2.symm))))
    b.rewardPerEpoch.toNat

/-- A voter who has not claimed has the voter's part of the reward left. -/
theorem claimedIn_add_share_le (h : e.BribesSound) (hpower : e.PowerSound)
    (hb : e.bribes.bribes.find? id = some b) {voter : Address}
    (hnew : e.bribes.isClaimed voter id epoch = false) :
    e.bribes.claimedIn id epoch + b.rewardPerEpoch.toNat *
        e.commitments.allocationOf voter b.gauge epoch / e.commitments.power b.gauge epoch ≤
      b.rewardPerEpoch.toNat := by
  have hnone : e.bribes.claims.find? (voter, id, epoch) = none :=
    Option.isSome_eq_false_iff.mp hnew |> Option.isNone_iff_eq_none.mp
  have hfresh : ∀ k ∈ e.bribes.claims.records, k.bribe = id ∧ k.epoch = epoch →
      k.voter ≠ voter := by
    rintro k hk ⟨rfl, rfl⟩ rfl
    exact Table.find?_eq_none_iff.mp hnone k hk rfl
  -- The voter's claim counts as one more, whatever its amount.
  have hshares := hpower.consistent.shares_le
    (l := ⟨voter, id, epoch, 0⟩ :: e.bribes.claims.records)
    (p := fun k : BribeClaim => k.bribe = id ∧ k.epoch = epoch) BribeClaim.voter b.gauge epoch
    (List.nodup_cons.mpr ⟨fun hk => hfresh _ hk ⟨rfl, rfl⟩ rfl, e.bribes.claims.nodup_records⟩)
    (fun k hk k' hk' hkey hkey' hvoter => by
      rcases List.mem_cons.mp hk with rfl | hk
      · rcases List.mem_cons.mp hk' with rfl | hk'
        · rfl
        · exact absurd hvoter.symm (hfresh k' hk' hkey')
      · rcases List.mem_cons.mp hk' with rfl | hk'
        · exact absurd hvoter (hfresh k hk hkey)
        · exact Table.eq_of_key_eq hk hk' (Prod.ext hvoter
            (Prod.ext (hkey.1.trans hkey'.1.symm) (hkey.2.trans hkey'.2.symm))))
    b.rewardPerEpoch.toNat
  rw [List.map_cons, List.sum_cons, if_pos ⟨rfl, rfl⟩, ← h.claimedIn_eq hb epoch] at hshares
  exact (Nat.add_comm ..).trans_le hshares

/-- A clawback for an epoch is of its whole reward, and there is at most one. -/
theorem clawedBackIn_le (h : e.BribesSound) (hb : e.bribes.bribes.find? id = some b)
    (epoch : Epoch) : e.bribes.clawedBackIn id epoch ≤ b.rewardPerEpoch.toNat := by
  -- A clawback is filed under the bribe and the epoch, so there is only one.
  have hsingle : e.bribes.clawedBackIn id epoch =
      e.bribes.clawbacks.total fun k =>
        if Keyed.key k = (id, epoch) then b.rewardPerEpoch.toNat else 0 := by
    refine Table.total_congr fun k hk => ?_
    by_cases hkey : k.bribe = id ∧ k.epoch = epoch
    · rw [if_pos hkey, (h.clawback_sound hb hk hkey.1).amount_eq]
      exact (if_pos (Prod.ext hkey.1 hkey.2)).symm
    · rw [if_neg hkey]
      exact (if_neg fun heq => hkey (Prod.mk.inj heq)).symm
  rw [hsingle, Table.total_single]
  cases e.bribes.clawbacks.find? (id, epoch) with
  | none => exact Nat.zero_le _
  | some k => exact Nat.le_refl _

/-- A covered epoch takes no more than its reward, and nothing before it is settled. -/
theorem epoch_le (h : e.BribesSound) (hpower : e.PowerSound)
    (hb : e.bribes.bribes.find? id = some b) (epoch : Epoch) :
    e.bribes.claimedIn id epoch + e.bribes.clawedBackIn id epoch +
      (if epoch ∈ e.bribes.settledEpochs id then 0 else b.rewardPerEpoch.toNat) ≤
      b.rewardPerEpoch.toNat := by
  have hclaimed := h.claimedIn_le hpower hb epoch
  have hclawedBack := h.clawedBackIn_le hb epoch
  by_cases hclaim : ∃ k ∈ e.bribes.claims.records, k.bribe = id ∧ k.epoch = epoch
  · have hzero : e.bribes.clawedBackIn id epoch = 0 := by
      refine clawedBackIn_eq_zero ?_
      rintro ⟨w, hw, hwid, hwepoch⟩
      obtain ⟨k, hk, hkid, hkepoch⟩ := hclaim
      exact h.exclusive hk hw (hkid.trans hwid.symm) (hkepoch.trans hwepoch.symm)
    rw [if_pos (mem_settledEpochs.mpr (Or.inl hclaim))]
    omega
  · have hzero := claimedIn_eq_zero hclaim
    by_cases hclawback : ∃ k ∈ e.bribes.clawbacks.records, k.bribe = id ∧ k.epoch = epoch
    · rw [if_pos (mem_settledEpochs.mpr (Or.inr hclawback))]
      omega
    · have hnone := clawedBackIn_eq_zero hclawback
      rw [if_neg fun hsettled => (mem_settledEpochs.mp hsettled).elim hclaim hclawback]
      omega

/-- What was claimed of a bribe, epoch by epoch. -/
theorem claimedOf_eq (h : e.BribesSound) (hb : e.bribes.bribes.find? id = some b) :
    e.bribes.claimedOf id =
      (b.coveredEpochs.map fun epoch => e.bribes.claimedIn id epoch).sum :=
  b.total_by_epochs e.bribes.claims (fun k => k.bribe = id) BribeClaim.epoch
    (fun k => k.amount.toNat) fun _ hk hid => (h.claim_sound hb hk hid).covers

/-- What was clawed back of a bribe, epoch by epoch. -/
theorem clawedBackOf_eq (h : e.BribesSound) (hb : e.bribes.bribes.find? id = some b) :
    e.bribes.clawedBackOf id =
      (b.coveredEpochs.map fun epoch => e.bribes.clawedBackIn id epoch).sum :=
  b.total_by_epochs e.bribes.clawbacks (fun k => k.bribe = id) BribeClawback.epoch
    (fun k => k.amount.toNat) fun _ hk hid => (h.clawback_sound hb hk hid).covers

/-- What is left of the escrow is enough for the epochs that are still to be settled. -/
theorem settled_le (h : e.BribesSound) (hpower : e.PowerSound)
    (hb : e.bribes.bribes.find? id = some b) :
    e.bribes.claimedOf id + e.bribes.clawedBackOf id +
      b.rewardPerEpoch.toNat * (e.bribes.unsettledEpochs b).length ≤
      b.rewardPerEpoch.toNat * b.numEpochs.toNat := by
  have hid := id_of_find? hb
  rw [h.claimedOf_eq hb, h.clawedBackOf_eq hb, ← b.length_coveredEpochs]
  unfold unsettledEpochs
  rw [hid]
  -- Epoch by epoch, what is settled and what is reserved fit into one reward.
  induction b.coveredEpochs with
  | nil => simp
  | cons epoch rest ih =>
    have hepoch := h.epoch_le hpower hb epoch
    rw [List.map_cons, List.map_cons, List.sum_cons, List.sum_cons, List.length_cons,
      Nat.mul_succ]
    by_cases hsettled : epoch ∈ e.bribes.settledEpochs id
    · rw [if_pos hsettled] at hepoch
      rw [List.filter_cons_of_neg (by simpa using hsettled)]
      omega
    · rw [if_neg hsettled] at hepoch
      rw [List.filter_cons_of_pos (by simpa using hsettled), List.length_cons, Nat.mul_succ]
      omega

/-- In an epoch with power there are no clawbacks. -/
theorem clawedBackIn_of_power (h : e.BribesSound) (hb : e.bribes.bribes.find? id = some b)
    (hpower : e.commitments.power b.gauge epoch ≠ 0) : e.bribes.clawedBackIn id epoch = 0 := by
  refine clawedBackIn_eq_zero ?_
  rintro ⟨k, hk, hid, rfl⟩
  exact hpower (h.clawback_sound hb hk hid).power_eq_zero

/-- In an epoch without power there are no claims. -/
theorem claimedIn_of_no_power (h : e.BribesSound) (hb : e.bribes.bribes.find? id = some b)
    (hzero : e.commitments.power b.gauge epoch = 0) : e.bribes.claimedIn id epoch = 0 := by
  refine claimedIn_eq_zero ?_
  rintro ⟨k, hk, hid, rfl⟩
  exact (h.claim_sound hb hk hid).power_ne_zero hzero

/-- What a covered epoch has left of its reward is left of the escrow. -/
theorem settled_add_le (h : e.BribesSound) (hpower : e.PowerSound)
    (hb : e.bribes.bribes.find? id = some b) (hcovers : b.covers epoch = true) {left : Nat}
    (hleft : e.bribes.claimedIn id epoch + e.bribes.clawedBackIn id epoch + left ≤
      b.rewardPerEpoch.toNat) :
    e.bribes.claimedOf id + e.bribes.clawedBackOf id + left ≤
      b.rewardPerEpoch.toNat * b.numEpochs.toNat := by
  have hothers (l : List Epoch) : (l.map fun epoch => e.bribes.claimedIn id epoch).sum +
      (l.map fun epoch => e.bribes.clawedBackIn id epoch).sum ≤
      b.rewardPerEpoch.toNat * l.length := by
    induction l with
    | nil => simp
    | cons epoch rest ih =>
      have hepoch := h.epoch_le hpower hb epoch
      simp only [List.map_cons, List.sum_cons, List.length_cons, Nat.mul_succ]
      omega
  obtain ⟨before, after, hsplit⟩ := List.append_of_mem (Bribe.mem_coveredEpochs.mpr hcovers)
  have hbefore := hothers before
  have hafter := hothers after
  rw [h.claimedOf_eq hb, h.clawedBackOf_eq hb, ← b.length_coveredEpochs, hsplit]
  simp only [List.map_append, List.map_cons, List.sum_append, List.sum_cons, List.length_append,
    List.length_cons, Nat.mul_add, Nat.mul_succ]
  omega

/-- The clawbacks of a bribe are of its whole reward each. -/
theorem clawedBackOf_eq_mul (h : e.BribesSound) (hb : e.bribes.bribes.find? id = some b) :
    e.bribes.clawedBackOf id = b.rewardPerEpoch.toNat *
      (e.bribes.clawbacks.records.filter fun k => k.bribe == id).length := by
  have hreward : e.bribes.clawedBackOf id =
      e.bribes.clawbacks.total fun k => if k.bribe == id then b.rewardPerEpoch.toNat else 0 := by
    refine Table.total_congr fun k hk => ?_
    by_cases hid : k.bribe = id
    · rw [if_pos hid, if_pos (beq_iff_eq.mpr hid), (h.clawback_sound hb hk hid).amount_eq]
    · rw [if_neg hid, if_neg fun heq => hid (beq_iff_eq.mp heq)]
  rw [hreward, ← Table.sum_filter, List.map_const', List.sum_replicate_nat, Nat.mul_comm]

end BribesSound
end Engine
end EpochVoting
