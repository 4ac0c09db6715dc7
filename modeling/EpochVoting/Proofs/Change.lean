import EpochVoting.Proofs.Allocations
import EpochVoting.Proofs.Step
import EpochVoting.Proofs.Weights

/-!
# Changes of the records

`Engine.Change e e'` says what a single call can do to the records, whoever calls and
whatever the tokens do.  Every step of a deployment leaves the records as they are or
makes one such change (`Step.change`), so what all changes keep is kept by every run.
-/

namespace EpochVoting

/-- A new gauge: disabled, without fees, and with the pool's totals as baseline. -/
def Gauge.starting (target : Address) (mints : PerSide Address)
    (poolTotals : PerSide UInt64) : Gauge where
  target := target
  enabled := false
  fees := PerSide.ofFn fun side =>
    FeeCounter.starting (mints.get side) (poolTotals.get side)

/-! ## Writes of allocations -/

namespace Commitments

/-- The records after a commitment was added. -/
def addVote (c : Commitments) (r : EpochGauge) (s : Snapshot) (x : EpochVote)
    (gaugeTotal voterTotal : UInt64) : Commitments where
  epochGauges := c.epochGauges.insert { r with totalPower := gaugeTotal }
  snapshots := c.snapshots.insert { s with allocatedPower := voterTotal }
  votes := c.votes.insert x

/-- The records after a commitment was taken back. -/
def removeVote (c : Commitments) (r : EpochGauge) (s : Snapshot) (x : EpochVote)
    (gaugeTotal voterTotal : UInt64) : Commitments where
  epochGauges := c.epochGauges.insert { r with totalPower := gaugeTotal }
  snapshots := c.snapshots.insert { s with allocatedPower := voterTotal }
  votes := c.votes.erase (x.voter, x.gauge, x.epoch)

/-- The records after a commitment was closed. -/
def closeVote (c : Commitments) (r : EpochGauge) (s : Snapshot) (x : EpochVote)
    (gaugeClosed voterClosed : UInt64) : Commitments where
  epochGauges := c.epochGauges.insert { r with closedPower := gaugeClosed }
  snapshots := c.snapshots.insert (s.withClosed voterClosed ⟨x.gauge, x.allocatedPower⟩)
  votes := c.votes.erase (x.voter, x.gauge, x.epoch)

/-- The records after a snapshot was written. -/
def putSnapshot (c : Commitments) (s : Snapshot) : Commitments :=
  { c with snapshots := c.snapshots.insert s }

variable {c c' : Commitments} {voter : Address} {epoch : Epoch} {power seqno : UInt64}

theorem takeSnapshot_of_none (h : c.snapshot? voter epoch = none) :
    c.takeSnapshot voter epoch power seqno =
      (true, c.putSnapshot (.fresh voter epoch power seqno)) := by
  unfold takeSnapshot
  rw [h]
  rfl

theorem resetSnapshot_eq_ok_iff :
    c.resetSnapshot voter epoch power seqno = .ok c' ↔
      ∃ s, c.snapshot? voter epoch = some s ∧ s.allocatedPower = 0 ∧
        c' = c.putSnapshot { s with votingPower := power, weightChangeSeqno := seqno } := by
  unfold resetSnapshot
  simp only [bind_eq_ok_iff, snapshot_eq_ok_iff, require_passes_iff, beq_iff_eq,
    pure_eq_ok_iff, exists_const]
  constructor
  · rintro ⟨s, hs, hzero, rfl⟩
    exact ⟨s, hs, hzero, rfl⟩
  · rintro ⟨s, hs, hzero, rfl⟩
    exact ⟨s, hs, hzero, rfl⟩

/-- A call to commit that has no result to write: the voter's weight on the gauge is
worth nothing. -/
theorem commit_eq_ok_nothing_iff {g : Gauge} {weight : UInt32} {totalWeight : UInt64} :
    c.commit voter g epoch weight totalWeight seqno = .ok (.nothingToCommit, c') ↔
      c.vote? voter g.target epoch = none ∧ g.enabled = true ∧
      (∃ s, c.snapshot? voter epoch = some s ∧ s.weightChangeSeqno = seqno ∧
        s.votingPower.toNat * weight.toNat / totalWeight.toNat = 0) ∧
      (∃ r, c.epochGauge? g.target epoch = some r) ∧ c' = c := by
  unfold commit
  simp only [bind_eq_ok_iff, require_passes_iff, Option.isNone_iff_eq_none,
    Gauge.requireEnabled_eq_ok_iff, snapshot_eq_ok_iff, epochGauge_eq_ok_iff, beq_iff_eq,
    demand_eq_ok_iff, Amount.share?_eq_some_iff, exists_const, UInt32.toNat_toUInt64]
  constructor
  · rintro ⟨hnone, henabled, s, hs, hseqno, r, hr, allocated, hshare, h⟩
    by_cases hzero : allocated = 0
    · rw [if_pos hzero, pure_eq_ok_iff] at h
      cases h
      exact ⟨hnone, henabled, ⟨s, hs, hseqno, by rw [← hshare, hzero]; rfl⟩, ⟨r, hr⟩, rfl⟩
    · rw [if_neg hzero] at h
      simp only [bind_eq_ok_iff, pure_eq_ok_iff, Prod.mk.injEq, reduceCtorEq, false_and,
        and_false, exists_false] at h
  · rintro ⟨hnone, henabled, ⟨s, hs, hseqno, hshare⟩, ⟨r, hr⟩, rfl⟩
    exact ⟨hnone, henabled, s, hs, hseqno, r, hr, 0, hshare.symm, rfl⟩

/-- A commitment: the part of the snapshot's power that the weight is of the total. -/
theorem commit_eq_ok_committed_iff {g : Gauge} {weight : UInt32}
    {totalWeight allocated : UInt64} :
    c.commit voter g epoch weight totalWeight seqno = .ok (.committed allocated, c') ↔
      c.vote? voter g.target epoch = none ∧ g.enabled = true ∧
      ∃ s r, c.snapshot? voter epoch = some s ∧ s.weightChangeSeqno = seqno ∧
        c.epochGauge? g.target epoch = some r ∧
        allocated.toNat = s.votingPower.toNat * weight.toNat / totalWeight.toNat ∧
        allocated ≠ 0 ∧ ∃ gaugeTotal voterTotal : UInt64,
          gaugeTotal.toNat = r.totalPower.toNat + allocated.toNat ∧
          voterTotal.toNat = s.allocatedPower.toNat + allocated.toNat ∧
          c' = c.addVote r s ⟨voter, g.target, epoch, allocated⟩ gaugeTotal voterTotal := by
  unfold commit
  simp only [bind_eq_ok_iff, require_passes_iff, Option.isNone_iff_eq_none,
    Gauge.requireEnabled_eq_ok_iff, snapshot_eq_ok_iff, epochGauge_eq_ok_iff, beq_iff_eq,
    demand_eq_ok_iff, Amount.share?_eq_some_iff, exists_const, UInt32.toNat_toUInt64]
  constructor
  · rintro ⟨hnone, henabled, s, hs, hseqno, r, hr, amount, hshare, h⟩
    by_cases hzero : amount = 0
    · rw [if_pos hzero, pure_eq_ok_iff] at h
      cases h
    · rw [if_neg hzero] at h
      simp only [bind_eq_ok_iff, demand_eq_ok_iff, Amount.add?_eq_some_iff, pure_eq_ok_iff,
        Prod.mk.injEq, CommitOutcome.committed.injEq] at h
      obtain ⟨gaugeTotal, hgauge, voterTotal, hvoter, rfl, rfl⟩ := h
      exact ⟨hnone, henabled, s, r, hs, hseqno, hr, hshare, hzero, gaugeTotal, voterTotal,
        hgauge, hvoter, rfl⟩
  · rintro ⟨hnone, henabled, s, r, hs, hseqno, hr, hshare, hpositive, gaugeTotal, voterTotal,
      hgauge, hvoter, rfl⟩
    refine ⟨hnone, henabled, s, hs, hseqno, r, hr, allocated, hshare, ?_⟩
    rw [if_neg hpositive]
    simp only [bind_eq_ok_iff, demand_eq_ok_iff, Amount.add?_eq_some_iff, pure_eq_ok_iff,
      Prod.mk.injEq]
    exact ⟨gaugeTotal, hgauge, voterTotal, hvoter, trivial, rfl⟩

theorem revert_eq_ok_iff {gauge : Address} {released : UInt64} :
    c.revert voter gauge epoch = .ok (released, c') ↔
      ∃ x r s, c.vote? voter gauge epoch = some x ∧ c.epochGauge? gauge epoch = some r ∧
        c.snapshot? voter epoch = some s ∧ released = x.allocatedPower ∧
        ∃ gaugeTotal voterTotal : UInt64,
          r.totalPower.toNat = gaugeTotal.toNat + x.allocatedPower.toNat ∧
          s.allocatedPower.toNat = voterTotal.toNat + x.allocatedPower.toNat ∧
          c' = c.removeVote r s x gaugeTotal voterTotal := by
  unfold revert
  simp only [bind_eq_ok_iff, demand_eq_ok_iff, epochGauge_eq_ok_iff, snapshot_eq_ok_iff,
    Amount.sub?_eq_some_iff, pure_eq_ok_iff, Prod.mk.injEq]
  constructor
  · rintro ⟨x, hx, r, hr, s, hs, gaugeTotal, hgauge, voterTotal, hvoter, rfl, rfl⟩
    obtain ⟨rfl, rfl, rfl⟩ := key_of_vote? hx
    exact ⟨x, r, s, hx, hr, hs, rfl, gaugeTotal, voterTotal, hgauge, hvoter, rfl⟩
  · rintro ⟨x, r, s, hx, hr, hs, rfl, gaugeTotal, voterTotal, hgauge, hvoter, rfl⟩
    obtain ⟨rfl, rfl, rfl⟩ := key_of_vote? hx
    exact ⟨x, hx, r, hr, s, hs, gaugeTotal, hgauge, voterTotal, hvoter, rfl, rfl⟩

theorem close_eq_ok_iff {gauge : Address} {x : EpochVote} :
    c.close voter gauge epoch = .ok (x, c') ↔
      c.vote? voter gauge epoch = some x ∧ ∃ r s, c.epochGauge? gauge epoch = some r ∧
        c.snapshot? voter epoch = some s ∧ ∃ gaugeClosed voterClosed : UInt64,
          gaugeClosed.toNat = r.closedPower.toNat + x.allocatedPower.toNat ∧
          voterClosed.toNat = s.closedPower.toNat + x.allocatedPower.toNat ∧
          c' = c.closeVote r s x gaugeClosed voterClosed := by
  unfold close
  simp only [bind_eq_ok_iff, demand_eq_ok_iff, epochGauge_eq_ok_iff, snapshot_eq_ok_iff,
    Amount.add?_eq_some_iff, pure_eq_ok_iff, Prod.mk.injEq]
  constructor
  · rintro ⟨y, hy, r, hr, s, hs, gaugeClosed, hgauge, voterClosed, hvoter, taken, htaken, rfl, rfl⟩
    rw [Table.take?_of_find? hy] at htaken
    cases htaken
    obtain ⟨rfl, rfl, rfl⟩ := key_of_vote? hy
    exact ⟨hy, r, s, hr, hs, gaugeClosed, voterClosed, hgauge, hvoter, rfl⟩
  · rintro ⟨hx, r, s, hr, hs, gaugeClosed, voterClosed, hgauge, hvoter, rfl⟩
    obtain ⟨rfl, rfl, rfl⟩ := key_of_vote? hx
    exact ⟨x, hx, r, hr, s, hs, gaugeClosed, hgauge, voterClosed, hvoter, _,
      Table.take?_of_find? hx, rfl, rfl⟩

end Commitments

/-! ## Changes -/

namespace Engine

/-- One change of the records, with the conditions that the call checked. -/
inductive Change (e : Engine) : Engine → Prop
  | clock {factory : Factory} (hepoch : e.factory.currentEpoch ≤ factory.currentEpoch)
      (hnext : factory.currentEpoch.toNat ≤ e.factory.currentEpoch.toNat + 1)
      (hcount : factory.bribeCount = e.factory.bribeCount) : Change e { e with factory }
  | gaugeCreated {target : Address} {mints : PerSide Address} {totals : PerSide UInt64}
      (hnone : e.registry.gauges.find? target = none) :
      Change e { e with registry := e.registry.put (.starting target mints totals) }
  | gaugeSwitched {target : Address} {g : Gauge} {enabled : Bool}
      (hgauge : e.registry.gauges.find? target = some g) :
      Change e { e with registry := e.registry.put { g with enabled } }
  | weightSet {voter target : Address} {g : Gauge} {weight : UInt32} {change : VoteChange}
      {weights : WeightBook} (hgauge : e.registry.gauges.find? target = some g)
      (hset : e.weights.setVote voter g weight = .ok (change, weights)) :
      Change e { e with weights }
  | snapshotTaken {voter : Address} {power : UInt64}
      (hnone : e.commitments.snapshot? voter e.currentEpoch = none) :
      Change e { e with
        commitments := e.commitments.putSnapshot
          (.fresh voter e.currentEpoch power (e.weights.seqno voter)) }
  | snapshotReset {voter : Address} {s : Snapshot} {power : UInt64}
      (hs : e.commitments.snapshot? voter e.currentEpoch = some s)
      (hzero : s.allocatedPower = 0) :
      Change e { e with
        commitments := e.commitments.putSnapshot
          { s with votingPower := power, weightChangeSeqno := e.weights.seqno voter } }
  | captured {target : Address} {g : Gauge} {totals : PerSide UInt64} {capture : FeeCapture}
      (hgauge : e.registry.gauges.find? target = some g) (henabled : g.enabled = true)
      (hnone : e.commitments.epochGauge? target e.currentEpoch = none)
      (hcapture : FeeCapture.compute g totals = .ok capture) :
      Change e (e.recordCapture g e.currentEpoch capture)
  | committed {g : Gauge} {r : EpochGauge} {s : Snapshot} {x : EpochVote}
      {gaugeTotal voterTotal : UInt64} (hepoch : x.epoch = e.currentEpoch)
      (hgauge : e.registry.gauges.find? x.gauge = some g) (henabled : g.enabled = true)
      (hnone : e.commitments.vote? x.voter x.gauge x.epoch = none)
      (hs : e.commitments.snapshot? x.voter x.epoch = some s)
      (hseqno : s.weightChangeSeqno = e.weights.seqno x.voter)
      (hr : e.commitments.epochGauge? x.gauge x.epoch = some r)
      (hshare : x.allocatedPower.toNat = s.votingPower.toNat *
        (e.weights.weight x.voter x.gauge).toNat / (e.weights.totalWeight x.voter).toNat)
      (hpositive : x.allocatedPower ≠ 0)
      (hgaugeTotal : gaugeTotal.toNat = r.totalPower.toNat + x.allocatedPower.toNat)
      (hvoterTotal : voterTotal.toNat = s.allocatedPower.toNat + x.allocatedPower.toNat) :
      Change e { e with commitments := e.commitments.addVote r s x gaugeTotal voterTotal }
  | reverted {r : EpochGauge} {s : Snapshot} {x : EpochVote} {gaugeTotal voterTotal : UInt64}
      (hepoch : x.epoch = e.currentEpoch)
      (hx : e.commitments.vote? x.voter x.gauge x.epoch = some x)
      (hr : e.commitments.epochGauge? x.gauge x.epoch = some r)
      (hs : e.commitments.snapshot? x.voter x.epoch = some s)
      (hgaugeTotal : r.totalPower.toNat = gaugeTotal.toNat + x.allocatedPower.toNat)
      (hvoterTotal : s.allocatedPower.toNat = voterTotal.toNat + x.allocatedPower.toNat) :
      Change e { e with commitments := e.commitments.removeVote r s x gaugeTotal voterTotal }
  | closed {r : EpochGauge} {s : Snapshot} {x : EpochVote} {gaugeClosed voterClosed : UInt64}
      (helapsed : x.epoch < e.currentEpoch)
      (hx : e.commitments.vote? x.voter x.gauge x.epoch = some x)
      (hr : e.commitments.epochGauge? x.gauge x.epoch = some r)
      (hs : e.commitments.snapshot? x.voter x.epoch = some s)
      (hgaugeClosed : gaugeClosed.toNat = r.closedPower.toNat + x.allocatedPower.toNat)
      (hvoterClosed : voterClosed.toNat = s.closedPower.toNat + x.allocatedPower.toNat) :
      Change e { e with commitments := e.commitments.closeVote r s x gaugeClosed voterClosed }
  | cleaned {target : Address} {epoch : Epoch} {g : Gauge} {r : EpochGauge}
      {pruned : PerSide UInt64} (helapsed : epoch < e.currentEpoch)
      (hr : e.commitments.epochGauge? target epoch = some r) (hzero : r.totalPower = 0)
      (hgauge : e.registry.gauges.find? target = some g)
      (hpruned : g.prunedTotals r = .ok pruned) : Change e (e.recordClean g epoch pruned)
  | feeClaimed {voter target : Address} {epoch : Epoch} {side : FeeSide} {g : Gauge}
      {r : EpochGauge} {s : Snapshot} {claim : FeeClaim} (helapsed : epoch < e.currentEpoch)
      (hgauge : e.registry.gauges.find? target = some g)
      (hr : e.commitments.epochGauge? target epoch = some r)
      (hs : e.commitments.snapshot? voter epoch = some s)
      (hclaim : FeeClaim.compute g r s (e.commitments.allocation? voter target epoch) side =
        .ok (some claim)) : Change e (e.recordFeeClaim g s claim)
  | bribeCreated {target briber mint : Address} {g : Gauge} {id rewardPerEpoch : UInt64}
      {epochEnd : Epoch} {b : Bribe} (hgauge : e.registry.gauges.find? target = some g)
      (hid : e.factory.nextBribeId = .ok id)
      (hbribe : Bribe.prepare id target briber mint rewardPerEpoch e.currentEpoch epochEnd =
        .ok b) : Change e (e.recordBribe b)
  | bribeClaimed {voter : Address} {id : UInt64} {epoch : Epoch} {b : Bribe}
      {claim : BribeClaim} {bribes : BribeLedger} (helapsed : epoch < e.currentEpoch)
      (hbribe : e.bribes.bribes.find? id = some b)
      (hclaim : e.bribes.checkClaim voter id epoch (e.totalPower b.gauge epoch)
        (e.commitments.allocation? voter b.gauge epoch) = .ok claim)
      (hrecorded : e.bribes.recordClaim claim = .ok bribes) : Change e { e with bribes }
  | bribeReturned {briber : Address} {id : UInt64} {epoch : Epoch} {b : Bribe}
      {clawback : BribeClawback} {bribes : BribeLedger} (helapsed : epoch < e.currentEpoch)
      (hbribe : e.bribes.bribes.find? id = some b)
      (hclawback : e.bribes.checkClawback briber id epoch (e.totalPower b.gauge epoch) =
        .ok clawback)
      (hrecorded : e.bribes.recordClawback clawback = .ok bribes) : Change e { e with bribes }

/-! ## The calls of the engine as changes -/

variable {e e' : Engine} {authority voter target : Address} {escrow : Escrow} {now : Timestamp}

theorem change_of_advanceEpoch {epoch : Epoch}
    (h : e.advanceEpoch now = .ok (epoch, e')) : e.Change e' := by
  obtain ⟨factory, hadvance, heq⟩ := bind_eq_ok_iff.mp h
  cases heq
  obtain ⟨-, next, due, hnext, -, rfl⟩ := Factory.advance_eq_ok_iff.mp hadvance
  have hle : e.factory.currentEpoch.toNat ≤ next.toNat := by omega
  exact .clock (UInt32.le_iff_toNat_le.mpr hle) (Nat.le_of_eq hnext) rfl

theorem change_of_setForeman {newForeman : Address}
    (h : e.setForeman authority newForeman = .ok e') : e.Change e' := by
  obtain ⟨factory, hset, heq⟩ := bind_eq_ok_iff.mp h
  cases heq
  obtain ⟨-, rfl⟩ := Factory.setForeman_eq_ok_iff.mp hset
  exact .clock (UInt32.le_refl _) (Nat.le_succ _) rfl

theorem change_of_setEpochDuration {secs : UInt64}
    (h : e.setEpochDuration authority secs = .ok e') : e.Change e' := by
  obtain ⟨factory, hset, heq⟩ := bind_eq_ok_iff.mp h
  cases heq
  obtain ⟨-, -, rfl⟩ := Factory.setEpochDuration_eq_ok_iff.mp hset
  exact .clock (UInt32.le_refl _) (Nat.le_succ _) rfl

/-- A gauge created is a new gauge put into the registry. -/
theorem createGauge_eq_ok_iff {mints : PerSide Address} {totals : PerSide UInt64} :
    e.createGauge target mints totals = .ok e' ↔
      e.registry.gauges.find? target = none ∧
        e' = { e with registry := e.registry.put (.starting target mints totals) } := by
  unfold createGauge Registry.create
  simp only [bind_eq_ok_iff, require_passes_iff, Bool.not_eq_true', pure_eq_ok_iff,
    exists_const]
  have hnone : e.registry.gauges.contains target = false ↔
      e.registry.gauges.find? target = none := by
    unfold Table.contains
    rw [Option.isSome_eq_false_iff, Option.isNone_iff_eq_none]
  rw [hnone]
  constructor
  · rintro ⟨_, ⟨hnew, rfl⟩, rfl⟩
    exact ⟨hnew, rfl⟩
  · rintro ⟨hnew, rfl⟩
    exact ⟨_, ⟨hnew, rfl⟩, rfl⟩

theorem setGaugeEnabled_eq_ok {enabled changed : Bool}
    (h : e.setGaugeEnabled authority target enabled = .ok (changed, e')) :
    ∃ g, e.registry.gauges.find? target = some g ∧
      e' = { e with registry := e.registry.put { g with enabled } } := by
  obtain ⟨_, -, hguarded⟩ := bind_eq_ok_iff.mp h
  obtain ⟨⟨_, registry⟩, hset, heq⟩ := bind_eq_ok_iff.mp hguarded
  cases heq
  obtain ⟨g, hgauge, hwritten⟩ := bind_eq_ok_iff.mp hset
  cases hwritten
  exact ⟨g, Registry.get_eq_ok_iff.mp hgauge, rfl⟩

theorem change_of_createGauge {mints : PerSide Address} {totals : PerSide UInt64}
    (h : e.createGauge target mints totals = .ok e') : e.Change e' := by
  obtain ⟨hnone, rfl⟩ := createGauge_eq_ok_iff.mp h
  exact .gaugeCreated hnone

theorem change_of_setGaugeEnabled {enabled changed : Bool}
    (h : e.setGaugeEnabled authority target enabled = .ok (changed, e')) : e.Change e' := by
  obtain ⟨g, hgauge, rfl⟩ := setGaugeEnabled_eq_ok h
  exact .gaugeSwitched hgauge

theorem change_of_setVote {weight : UInt32} {change : VoteChange}
    (h : e.setVote escrow authority voter target weight = .ok (change, e')) :
    e.Change e' := by
  obtain ⟨_, -, hlocked⟩ := bind_eq_ok_iff.mp h
  obtain ⟨_, -, hallowed⟩ := bind_eq_ok_iff.mp hlocked
  obtain ⟨g, hgauge, hfound⟩ := bind_eq_ok_iff.mp hallowed
  obtain ⟨⟨_, weights⟩, hset, heq⟩ := bind_eq_ok_iff.mp hfound
  cases heq
  exact .weightSet (Registry.get_eq_ok_iff.mp hgauge) hset

theorem change_of_takeSnapshot {taken : Bool}
    (h : e.takeSnapshot escrow now voter = .ok (taken, e')) : e' = e ∨ e.Change e' := by
  unfold takeSnapshot at h
  by_cases hsome : (e.commitments.snapshot? voter e.currentEpoch).isSome = true
  · rw [if_pos hsome] at h
    cases h
    exact Or.inl rfl
  · rw [if_neg hsome] at h
    obtain ⟨power, -, heq⟩ := bind_eq_ok_iff.mp h
    have hnone := Option.not_isSome_iff_eq_none.mp hsome
    rw [Commitments.takeSnapshot_of_none hnone] at heq
    cases heq
    exact Or.inr (.snapshotTaken hnone)

theorem change_of_resetSnapshot
    (h : e.resetSnapshot escrow now voter = .ok e') : e.Change e' := by
  obtain ⟨power, -, hpower⟩ := bind_eq_ok_iff.mp h
  obtain ⟨commitments, hreset, heq⟩ := bind_eq_ok_iff.mp hpower
  cases heq
  obtain ⟨s, hs, hzero, rfl⟩ := Commitments.resetSnapshot_eq_ok_iff.mp hreset
  exact .snapshotReset hs hzero

theorem change_of_commit {outcome : CommitOutcome}
    (h : e.commit voter target = .ok (outcome, e')) : e' = e ∨ e.Change e' := by
  obtain ⟨g, hgauge, hfound⟩ := bind_eq_ok_iff.mp h
  obtain ⟨⟨_, commitments⟩, hcommit, heq⟩ := bind_eq_ok_iff.mp hfound
  cases heq
  rw [Registry.get_eq_ok_iff] at hgauge
  obtain rfl := Registry.target_of_find? hgauge
  cases outcome with
  | nothingToCommit =>
    obtain ⟨-, -, -, -, rfl⟩ := Commitments.commit_eq_ok_nothing_iff.mp hcommit
    exact Or.inl rfl
  | committed allocated =>
    obtain ⟨hnone, henabled, s, r, hs, hseqno, hr, hshare, hpositive, gaugeTotal, voterTotal,
      hgaugeTotal, hvoterTotal, rfl⟩ := Commitments.commit_eq_ok_committed_iff.mp hcommit
    exact Or.inr (.committed (x := ⟨voter, g.target, e.currentEpoch, allocated⟩) rfl hgauge
      henabled hnone hs hseqno hr hshare hpositive hgaugeTotal hvoterTotal)

theorem change_of_revert {epoch : Epoch} {released : UInt64}
    (h : e.revert escrow authority voter target epoch = .ok (released, e')) :
    e.Change e' := by
  obtain ⟨_, -, hallowed⟩ := bind_eq_ok_iff.mp h
  obtain ⟨_, hlive, hepoch⟩ := bind_eq_ok_iff.mp hallowed
  obtain ⟨⟨_, commitments⟩, hrevert, heq⟩ := bind_eq_ok_iff.mp hepoch
  cases heq
  rw [Factory.requireLive_eq_ok_iff] at hlive
  obtain ⟨x, r, s, hx, hr, hs, -, gaugeTotal, voterTotal, hgaugeTotal, hvoterTotal, rfl⟩ :=
    Commitments.revert_eq_ok_iff.mp hrevert
  obtain ⟨rfl, rfl, rfl⟩ := Commitments.key_of_vote? hx
  exact .reverted hlive hx hr hs hgaugeTotal hvoterTotal

theorem change_of_close {epoch : Epoch} {allocated : UInt64}
    (h : e.close escrow authority voter target epoch = .ok (allocated, e')) :
    e.Change e' := by
  obtain ⟨_, -, hallowed⟩ := bind_eq_ok_iff.mp h
  obtain ⟨_, helapsed, hepoch⟩ := bind_eq_ok_iff.mp hallowed
  obtain ⟨⟨x, commitments⟩, hclose, heq⟩ := bind_eq_ok_iff.mp hepoch
  cases heq
  rw [Factory.requireElapsed_eq_ok_iff] at helapsed
  obtain ⟨hx, r, s, hr, hs, gaugeClosed, voterClosed, hgaugeClosed, hvoterClosed, rfl⟩ :=
    Commitments.close_eq_ok_iff.mp hclose
  obtain ⟨rfl, rfl, rfl⟩ := Commitments.key_of_vote? hx
  exact .closed helapsed hx hr hs hgaugeClosed hvoterClosed

end Engine

namespace Deployment

variable {d d' : Deployment} {operation : Operation} {reply : Reply}

/-- A step changes the records once or not at all. -/
theorem Step.change (h : Step d operation reply d') :
    d'.engine = d.engine ∨ d.engine.Change d'.engine := by
  cases h with
  | advanceEpoch hcall => exact Or.inr (Engine.change_of_advanceEpoch hcall)
  | setForeman hcall => exact Or.inr (Engine.change_of_setForeman hcall)
  | setEpochDuration hcall => exact Or.inr (Engine.change_of_setEpochDuration hcall)
  | createGauge hcall => exact Or.inr (Engine.change_of_createGauge hcall)
  | setGaugeEnabled hcall => exact Or.inr (Engine.change_of_setGaugeEnabled hcall)
  | setVote hcall => exact Or.inr (Engine.change_of_setVote hcall)
  | takeSnapshot hcall => exact Engine.change_of_takeSnapshot hcall
  | resetSnapshot hcall => exact Or.inr (Engine.change_of_resetSnapshot hcall)
  | captured _ hgauge henabled hnone hcapture _ =>
    exact Or.inr (.captured hgauge henabled hnone hcapture)
  | commit hcall => exact Engine.change_of_commit hcall
  | revert hcall => exact Or.inr (Engine.change_of_revert hcall)
  | close hcall => exact Or.inr (Engine.change_of_close hcall)
  | cleaned helapsed hrecord hempty hgauge hpruned =>
    exact Or.inr (.cleaned helapsed hrecord hempty hgauge hpruned)
  | feePaid _ _ helapsed hgauge hrecord hsnapshot hclaim _ =>
    exact Or.inr (.feeClaimed helapsed hgauge hrecord hsnapshot hclaim)
  | bribeCreated hgauge hid hbribe _ _ => exact Or.inr (.bribeCreated hgauge hid hbribe)
  | bribePaid _ _ helapsed hbribe hclaim _ hrecorded =>
    exact Or.inr (.bribeClaimed helapsed hbribe hclaim hrecorded)
  | bribeReturned helapsed hbribe hclawback _ hrecorded =>
    exact Or.inr (.bribeReturned helapsed hbribe hclawback hrecorded)
  | _ => exact Or.inl rfl

end Deployment
end EpochVoting
