import EpochVoting.Proofs.Change

/-!
# Commitments follow the weights

A snapshot remembers under which weights it was taken.  As long as the voter's weights
are still those, every live commitment from it is the gauge's part of its power, so
together they stay within that power.  A snapshot of other weights accepts no further
commitment.  With this the records of epochs stay consistent under every change
(`Change.powerSound`).
-/

namespace EpochVoting

namespace Commitments

variable {c c' : Commitments} {b b' : WeightBook}

/-- No snapshot is newer than the voter's weights, and what is committed from one that
is not older follows these weights. -/
def Pinned (c : Commitments) (b : WeightBook) : Prop :=
  ∀ s ∈ c.snapshots.records, s.weightChangeSeqno.toNat ≤ (b.seqno s.voter).toNat ∧
    (s.weightChangeSeqno = b.seqno s.voter →
      ∀ x ∈ c.votes.records, x.voter = s.voter → x.epoch = s.epoch →
        x.allocatedPower.toNat = s.votingPower.toNat *
          (b.weight x.voter x.gauge).toNat / (b.totalWeight x.voter).toNat)

theorem pinned_empty (b : WeightBook) : empty.Pinned b :=
  fun _ h => by cases h

/-- The parts of a snapshot that its commitments depend on. -/
def SameStake (s s' : Snapshot) : Prop :=
  s.voter = s'.voter ∧ s.epoch = s'.epoch ∧ s.votingPower = s'.votingPower ∧
    s.weightChangeSeqno = s'.weightChangeSeqno

/-- Snapshots that keep power and weights, and fewer votes. -/
theorem Pinned.shrink (h : c.Pinned b)
    (hsnapshots : ∀ s' ∈ c'.snapshots.records, ∃ s ∈ c.snapshots.records, SameStake s s')
    (hvotes : ∀ x ∈ c'.votes.records, x ∈ c.votes.records) : c'.Pinned b := by
  intro s' hs'
  obtain ⟨s, hs, hvoter, hepoch, hpower, hseqno⟩ := hsnapshots s' hs'
  rw [← hvoter, ← hepoch, ← hpower, ← hseqno]
  obtain ⟨hle, hshares⟩ := h s hs
  exact ⟨hle, fun hsame x hx => hshares hsame x (hvotes x hx)⟩

/-- A replaced snapshot with the same stake. -/
theorem sameStake_insert {s : Snapshot} (s' : Snapshot) (hs : s ∈ c.snapshots.records)
    (hstake : SameStake s s') :
    ∀ t' ∈ (c.snapshots.insert s').records, ∃ t ∈ c.snapshots.records, SameStake t t' :=
  Table.forall_insert ⟨s, hs, hstake⟩ fun t ht => ⟨t, ht, rfl, rfl, rfl, rfl⟩

/-- A weight change leaves the voter's snapshots behind. -/
theorem Pinned.setVote {voter : Address} {g : Gauge} {weight : UInt32} {change : VoteChange}
    (h : c.Pinned b) (hset : b.setVote voter g weight = .ok (change, b')) : c.Pinned b' := by
  obtain ⟨total, seqno, rfl, -, hseqno⟩ := WeightBook.write_of_setVote hset
  intro s hs
  obtain ⟨hle, hshares⟩ := h s hs
  rw [WeightBook.seqno_write]
  by_cases hvoter : voter = s.voter
  · -- The new sequence number is greater than that of any snapshot of the voter.
    rw [if_pos hvoter]
    rw [hvoter] at hseqno
    refine ⟨by omega, fun hsame => ?_⟩
    rw [hsame] at hle
    omega
  · rw [if_neg hvoter]
    refine ⟨hle, fun hsame x hx hxvoter hxepoch => ?_⟩
    have hother : voter ≠ x.voter := hxvoter ▸ hvoter
    rw [WeightBook.weight_write, WeightBook.totalWeight_write, if_neg hother,
      if_neg fun hkey => hother hkey.1]
    exact hshares hsame x hx hxvoter hxepoch

/-- A snapshot taken under the voter's weights, with nothing committed from it. -/
theorem Pinned.putSnapshot {s : Snapshot} (h : c.Pinned b)
    (hseqno : s.weightChangeSeqno = b.seqno s.voter)
    (hfree : ∀ x ∈ c.votes.records, x.voter = s.voter → x.epoch ≠ s.epoch) :
    (c.putSnapshot s).Pinned b := by
  refine Table.forall_insert ⟨?_, fun _ x hx hvoter hepoch => ?_⟩ fun t ht => h t ht
  · rw [hseqno]
  · exact absurd hepoch (hfree x hx hvoter)

theorem Pinned.addVote {r : EpochGauge} {s : Snapshot} {x : EpochVote}
    {gaugeTotal voterTotal : UInt64} (h : c.Pinned b)
    (hs : c.snapshot? x.voter x.epoch = some s)
    (hshare : x.allocatedPower.toNat = s.votingPower.toNat *
      (b.weight x.voter x.gauge).toNat / (b.totalWeight x.voter).toNat) :
    (c.addVote r s x gaugeTotal voterTotal).Pinned b := by
  intro t' ht'
  obtain ⟨t, ht, hvoter, hepoch, hpower, hseqno⟩ :=
    sameStake_insert { s with allocatedPower := voterTotal } (Table.mem_of_find? hs)
      ⟨rfl, rfl, rfl, rfl⟩ t' ht'
  rw [← hvoter, ← hepoch, ← hpower, ← hseqno]
  obtain ⟨hle, hshares⟩ := h t ht
  refine ⟨hle, fun hsame => Table.forall_insert (fun hxvoter hxepoch => ?_) (hshares hsame)⟩
  -- The new vote is of the snapshot that its voter has in this epoch.
  have hkey : t = s := Option.some.inj ((snapshot?_of_mem ht).symm.trans
    (by rw [← hxvoter, ← hxepoch]; exact hs))
  rw [hkey]
  exact hshare

/-- What is committed from a snapshot of the voter's present weights stays within the
snapshot's power. -/
theorem Pinned.liveOf_le {voter : Address} {epoch : Epoch} {s : Snapshot} (h : c.Pinned b)
    (hb : b.Balanced) (hs : c.snapshot? voter epoch = some s)
    (hseqno : s.weightChangeSeqno = b.seqno voter) :
    c.liveOf voter epoch ≤ s.votingPower.toNat := by
  obtain ⟨hvoter, hepoch⟩ := key_of_snapshot? hs
  have hshares := (h s (Table.mem_of_find? hs)).2 (by rw [hvoter]; exact hseqno)
  -- Each vote is matched with the voter's weight on its gauge.
  refine Nat.le_trans (Table.total_le_total (fun x => (voter, x.gauge)) ?_ ?_)
    (hb.shares_le voter s.votingPower.toNat)
  · intro x hx y hy hxne hyne hpartner
    have hxkey : x.voter = voter ∧ x.epoch = epoch := by
      by_contra hne
      exact hxne (if_neg hne)
    have hykey : y.voter = voter ∧ y.epoch = epoch := by
      by_contra hne
      exact hyne (if_neg hne)
    refine Table.eq_of_key_eq hx hy ?_
    simp only [Keyed.key, hxkey.1, hxkey.2, hykey.1, hykey.2, (Prod.mk.inj hpartner).2]
  · intro x hx
    by_cases hkey : x.voter = voter ∧ x.epoch = epoch
    · rw [if_pos hkey, hshares x hx (hkey.1.trans hvoter.symm) (hkey.2.trans hepoch.symm),
        hkey.1]
      unfold WeightBook.weight
      cases hw : b.weights.find? (voter, x.gauge) with
      | none =>
        change _ * 0 / _ ≤ 0
        rw [Nat.mul_zero, Nat.zero_div]
      | some w =>
        have hwvoter : w.voter = voter := (Prod.mk.inj (Table.key_of_find? hw)).1
        change _ ≤ if w.voter = voter then _ else 0
        rw [if_pos hwvoter]
        rfl
    · rw [if_neg hkey]
      exact Nat.zero_le _

end Commitments

namespace Engine

variable {e e' : Engine}

/-- The records of power agree with each other and follow the weights, and every epoch
record is of a registered gauge. -/
structure PowerSound (e : Engine) : Prop where
  consistent : e.commitments.Consistent e.currentEpoch
  balanced : e.weights.Balanced
  pinned : e.commitments.Pinned e.weights
  registered : ∀ r ∈ e.commitments.epochGauges.records,
    ∃ g, e.registry.gauges.find? r.gauge = some g

/-- Replacing or adding a gauge's record keeps all gauges registered. -/
theorem registered_put {r : Registry} {g : Gauge} {target : Address}
    (h : ∃ g, r.gauges.find? target = some g) :
    ∃ g', (r.put g).gauges.find? target = some g' := by
  unfold Registry.put
  rw [Table.find?_insert_ite]
  by_cases hkey : Keyed.key g = target
  · exact ⟨g, if_pos hkey⟩
  · rw [if_neg hkey]
    exact h

/-- A commitment under the voter's present weights stays within the snapshot's power. -/
theorem PowerSound.allocated_add_le {r : EpochGauge} {s : Snapshot} {x : EpochVote}
    {gaugeTotal voterTotal : UInt64} (h : e.PowerSound)
    (hpinned : (e.commitments.addVote r s x gaugeTotal voterTotal).Pinned e.weights)
    (hepoch : x.epoch = e.currentEpoch)
    (hnone : e.commitments.vote? x.voter x.gauge x.epoch = none)
    (hs : e.commitments.snapshot? x.voter x.epoch = some s)
    (hseqno : s.weightChangeSeqno = e.weights.seqno x.voter) :
    s.allocatedPower.toNat + x.allocatedPower.toNat ≤ s.votingPower.toNat := by
  obtain ⟨hvoter, hsepoch⟩ := Commitments.key_of_snapshot? hs
  have hs' : (e.commitments.addVote r s x gaugeTotal voterTotal).snapshot? x.voter x.epoch =
      some { s with allocatedPower := voterTotal } := by
    rw [Commitments.snapshot?_insert rfl, if_pos ⟨hvoter, hsepoch⟩]
  -- In the current epoch all of a voter's allocations are live.
  have hlive := hpinned.liveOf_le h.balanced hs' hseqno
  rw [Commitments.liveOf_insert rfl hnone, if_pos ⟨rfl, rfl⟩] at hlive
  change _ ≤ s.votingPower.toNat at hlive
  have hallocated := h.consistent.allocated_eq x.voter x.epoch
  rw [Commitments.allocated_of_snapshot? hs, (h.consistent.closed_of_not_elapsed
    (hepoch ▸ UInt32.lt_irrefl x.epoch)).1 x.voter] at hallocated
  omega

/-- Every change keeps the records of power sound. -/
theorem Change.powerSound (h : e.Change e') (hsound : e.PowerSound) : e'.PowerSound := by
  obtain ⟨hconsistent, hbalanced, hpinned, hregistered⟩ := id hsound
  cases h with
  | clock hepoch _ hcount =>
    exact ⟨hconsistent.advance hepoch, hbalanced, hpinned, hregistered⟩
  | gaugeCreated hnone =>
    exact ⟨hconsistent, hbalanced, hpinned, fun r hr => registered_put (hregistered r hr)⟩
  | gaugeSwitched hgauge =>
    exact ⟨hconsistent, hbalanced, hpinned, fun r hr => registered_put (hregistered r hr)⟩
  | weightSet hgauge hset =>
    exact ⟨hconsistent, hbalanced.setVote hset, hpinned.setVote hset, hregistered⟩
  | snapshotTaken hnone =>
    refine ⟨hconsistent.takeSnapshot rfl rfl rfl hnone rfl rfl rfl rfl, hbalanced,
      hpinned.putSnapshot rfl fun x hx hvoter hepoch => ?_, hregistered⟩
    refine hconsistent.no_vote_of_allocated_zero ?_ hx hvoter hepoch
    unfold Commitments.allocated
    exact congrArg (fun s => Option.elim s 0 _) hnone
  | @snapshotReset voter s power hs hzero =>
    have hold := Commitments.snapshot?_self hs
    refine ⟨hconsistent.replaceSnapshot rfl rfl rfl hold rfl rfl rfl ?_, hbalanced,
      hpinned.putSnapshot ?_ fun x hx hxvoter hxepoch => ?_, hregistered⟩
    · show s.allocatedPower.toNat ≤ power.toNat
      rw [hzero]
      exact Nat.zero_le _
    · show e.weights.seqno voter = e.weights.seqno s.voter
      rw [(Commitments.key_of_snapshot? hs).1]
    · refine hconsistent.no_vote_of_allocated_zero ?_ hx hxvoter hxepoch
      rw [Commitments.allocated_of_snapshot? hold, hzero]
      rfl
  | @captured target g totals capture hgauge henabled hnone hcapture =>
    have htarget := Registry.target_of_find? hgauge
    rw [← htarget] at hnone
    refine ⟨hconsistent.newEpochGauge rfl rfl rfl hnone rfl rfl rfl, hbalanced,
      hpinned.shrink (fun s hs => ⟨s, hs, rfl, rfl, rfl, rfl⟩) fun x hx => hx, ?_⟩
    refine Table.forall_insert ?_ fun r hr => registered_put (hregistered r hr)
    exact registered_put ⟨g, htarget ▸ hgauge⟩
  | @committed g r s x gaugeTotal voterTotal hepoch hgauge henabled hnone hs hseqno hr hshare
      hpositive hgaugeTotal hvoterTotal =>
    have hpinned' : (e.commitments.addVote r s x gaugeTotal voterTotal).Pinned e.weights :=
      hpinned.addVote hs hshare
    have hle : voterTotal.toNat ≤ s.votingPower.toNat := by
      rw [hvoterTotal]
      exact hsound.allocated_add_le hpinned' hepoch hnone hs hseqno
    refine ⟨hconsistent.addVote hr hs hnone rfl rfl rfl hepoch hpositive hgaugeTotal
      hvoterTotal hle, hbalanced, hpinned', ?_⟩
    exact Table.forall_insert (hregistered r (Table.mem_of_find? hr)) hregistered
  | @reverted r s x gaugeTotal voterTotal hepoch hx hr hs hgaugeTotal hvoterTotal =>
    refine ⟨hconsistent.removeVote hx hr hs rfl rfl rfl hgaugeTotal hvoterTotal, hbalanced,
      hpinned.shrink (Commitments.sameStake_insert _ (Table.mem_of_find? hs)
        ⟨rfl, rfl, rfl, rfl⟩) fun y hy => (Table.mem_erase_iff.mp hy).1, ?_⟩
    exact Table.forall_insert (hregistered r (Table.mem_of_find? hr)) hregistered
  | @closed r s x gaugeClosed voterClosed helapsed hx hr hs hgaugeClosed hvoterClosed =>
    refine ⟨hconsistent.closeVote hx hr hs rfl rfl rfl helapsed hgaugeClosed hvoterClosed,
      hbalanced, hpinned.shrink (Commitments.sameStake_insert _ (Table.mem_of_find? hs)
        ⟨rfl, rfl, rfl, rfl⟩) fun y hy => (Table.mem_erase_iff.mp hy).1, ?_⟩
    exact Table.forall_insert (hregistered r (Table.mem_of_find? hr)) hregistered
  | @cleaned target epoch g r pruned helapsed hr hzero hgauge hpruned =>
    obtain rfl := Registry.target_of_find? hgauge
    refine ⟨hconsistent.removeEpochGauge rfl rfl rfl ?_, hbalanced,
      hpinned.shrink (fun s hs => ⟨s, hs, rfl, rfl, rfl, rfl⟩) fun x hx => hx, ?_⟩
    · rw [Commitments.power_of_epochGauge? hr, hzero]
      rfl
    · exact Table.forall_erase fun r hr => registered_put (hregistered r hr)
  | @feeClaimed voter target epoch side g r s claim helapsed hgauge hr hs hclaim =>
    have hold := Commitments.snapshot?_self hs
    refine ⟨hconsistent.replaceSnapshot rfl rfl rfl hold rfl rfl rfl
      (hconsistent.snapshot_sound hs).allocated_le, hbalanced,
      hpinned.shrink (Commitments.sameStake_insert _ (Table.mem_of_find? hs)
        ⟨rfl, rfl, rfl, rfl⟩) fun x hx => hx, fun r hr => registered_put (hregistered r hr)⟩
  | bribeCreated hgauge hid hbribe => exact ⟨hconsistent, hbalanced, hpinned, hregistered⟩
  | bribeClaimed helapsed hbribe hclaim hrecorded =>
    exact ⟨hconsistent, hbalanced, hpinned, hregistered⟩
  | bribeReturned helapsed hbribe hclawback hrecorded =>
    exact ⟨hconsistent, hbalanced, hpinned, hregistered⟩

end Engine
end EpochVoting
