import EpochVoting.Proofs.Audit
import EpochVoting.Proofs.Links

/-!
# What the audit does not see

A claim reads a voter's allocation to a gauge from the live vote if there is one, and else
from the voter's snapshot.  The audit adds up live votes and closed allocations without
asking whether a claim can read them.  In an engine that was loaded from any store, a live
vote may be without a snapshot, and a closed allocation may have a live vote before it: both
count as power of the gauge, and no claim pays for either.  Of the settlements of bribes the
audit reads which epochs they are of, not their amounts, so what a bribe's counters say was
paid need not be what was recorded.

Main statements: what an audit that passes says of the stored totals
(`Engine.totals_of_audit`), and that in a deployment that has been run from its genesis
nothing escapes it (`Deployment.totals_along_run`).
-/

namespace EpochVoting

namespace Commitments

variable {c : Commitments} {gauge : Address} {epoch now : Epoch} {s : Snapshot}

/-- What the voters with a snapshot of the epoch can claim with on a gauge. -/
def claimable (c : Commitments) (gauge : Address) (epoch : Epoch) : Nat :=
  c.snapshots.total fun s =>
    if s.epoch = epoch then c.allocationOf s.voter gauge epoch else 0

/-- The live allocations to a gauge whose voters have no snapshot of the epoch. -/
def orphaned (c : Commitments) (gauge : Address) (epoch : Epoch) : Nat :=
  c.votes.total fun x =>
    if x.gauge = gauge ∧ x.epoch = epoch ∧ c.snapshot? x.voter epoch = none then
      x.allocatedPower.toNat
    else 0

/-- The closed allocations to a gauge that a live vote of the same voter stands before. -/
def hidden (c : Commitments) (gauge : Address) (epoch : Epoch) : Nat :=
  c.snapshots.total fun s =>
    if s.epoch = epoch ∧ (c.vote? s.voter gauge epoch).isSome then s.closedTo gauge else 0

/-- The live allocation of a voter to a gauge. -/
def liveTo (c : Commitments) (voter gauge : Address) (epoch : Epoch) : Nat :=
  (c.vote? voter gauge epoch).elim 0 fun x => x.allocatedPower.toNat

/-- A voter claims with the live allocation, or with the closed one if there is none. -/
theorem allocationOf_add_hidden (hs : s ∈ c.snapshots.records) (gauge : Address) :
    c.allocationOf s.voter gauge s.epoch +
        (if (c.vote? s.voter gauge s.epoch).isSome then s.closedTo gauge else 0) =
      c.liveTo s.voter gauge s.epoch + s.closedTo gauge := by
  have hfound := snapshot?_of_mem hs
  unfold allocationOf allocation? liveTo
  cases c.vote? s.voter gauge s.epoch with
  | some x => simp
  | none => simp [hfound, Snapshot.closedTo]

/-- The live allocations whose voters have a snapshot, vote by vote and snapshot by
snapshot. -/
theorem total_liveTo (c : Commitments) (gauge : Address) (epoch : Epoch) :
    (c.snapshots.total fun s => if s.epoch = epoch then c.liveTo s.voter gauge epoch else 0) =
      c.votes.total fun x =>
        if x.gauge = gauge ∧ x.epoch = epoch ∧ (c.snapshot? x.voter epoch).isSome then
          x.allocatedPower.toNat
        else 0 := by
  rw [← Table.total_partners (t := c.snapshots) fun x : EpochVote => (x.voter, epoch)]
  · refine Table.total_congr fun s hs => ?_
    by_cases hepoch : s.epoch = epoch
    · subst hepoch
      have hat := c.votes.total_at (s.voter, gauge, s.epoch) fun x => x.allocatedPower.toNat
      rw [if_pos rfl]
      refine hat.symm.trans (Table.total_congr fun x _ => ?_)
      have hfound := snapshot?_of_mem hs
      by_cases hvoter : x.voter = s.voter
      · simp [Keyed.key, hvoter, hfound]
      · simp [Keyed.key, hvoter, Ne.symm hvoter]
    · simp [Keyed.key, hepoch, Table.total]
  · intro x _ hcounts
    by_contra hnone
    rw [← Option.isSome_iff_exists] at hnone
    exact hcounts (if_neg fun hkey => hnone hkey.2.2)

/-- Every live and every closed allocation can be claimed with, is orphaned or is hidden. -/
theorem live_add_closed (c : Commitments) (gauge : Address) (epoch : Epoch) :
    c.liveOn gauge epoch + c.closedOn gauge epoch =
      c.claimable gauge epoch + c.orphaned gauge epoch + c.hidden gauge epoch := by
  have hlive : c.liveOn gauge epoch =
      (c.snapshots.total fun s =>
        if s.epoch = epoch then c.liveTo s.voter gauge epoch else 0) +
      c.orphaned gauge epoch := by
    rw [total_liveTo, orphaned, ← Table.total_add]
    refine Table.total_congr fun x _ => ?_
    cases c.snapshot? x.voter epoch <;> simp
  have hread : c.claimable gauge epoch + c.hidden gauge epoch =
      (c.snapshots.total fun s =>
        if s.epoch = epoch then c.liveTo s.voter gauge epoch else 0) +
      c.closedOn gauge epoch := by
    rw [claimable, hidden, closedOn, ← Table.total_add, ← Table.total_add]
    refine Table.total_congr fun s hs => ?_
    by_cases hepoch : s.epoch = epoch
    · subst hepoch
      simpa using allocationOf_add_hidden hs gauge
    · simp [hepoch]
  omega

/-- In consistent records a live vote has a snapshot that shows no other allocation. -/
theorem Consistent.all_claimable (h : c.Consistent now) (gauge : Address) (epoch : Epoch) :
    c.orphaned gauge epoch = 0 ∧ c.hidden gauge epoch = 0 := by
  constructor
  · refine Table.total_eq_zero_iff.mpr fun x hx => if_neg ?_
    rintro ⟨-, rfl, hnone⟩
    obtain ⟨s, hs⟩ := h.snapshot?_of_vote hx
    rw [hs] at hnone
    cases hnone
  · refine Table.total_eq_zero_iff.mpr fun s hs => ?_
    by_cases hkey : s.epoch = epoch ∧ (c.vote? s.voter gauge epoch).isSome
    · obtain ⟨rfl, hsome⟩ := hkey
      obtain ⟨x, hx⟩ := Option.isSome_iff_exists.mp hsome
      have hnone := h.disjoint s.voter gauge s.epoch x s hx (snapshot?_of_mem hs)
      simp [hsome, Snapshot.closedTo, hnone]
    · rw [if_neg hkey]

end Commitments

/-! ## Settlements -/

/-- The same bribes, and no settlements but of epochs that are settled in the same way. -/
structure BribeLedger.SettledIn (l' l : BribeLedger) : Prop where
  bribes : l'.bribes = l.bribes
  claims : ∀ k' ∈ l'.claims.records, ∃ k ∈ l.claims.records,
    k.bribe = k'.bribe ∧ k.epoch = k'.epoch
  clawbacks : ∀ k' ∈ l'.clawbacks.records, ∃ k ∈ l.clawbacks.records,
    k.bribe = k'.bribe ∧ k.epoch = k'.epoch

namespace Engine

variable {e : Engine} {tokens : TokenLedger}

/-- The audit reads of a settlement which epoch of which bribe it is of, and no more. -/
theorem Audited.of_settledIn (h : e.Audited tokens) {l : BribeLedger}
    (hl : l.SettledIn e.bribes) : { e with bribes := l }.Audited tokens where
  live_fits := h.live_fits
  closed_fits := h.closed_fits
  fees_fit := h.fees_fit
  epochGauges := h.epochGauges
  snapshots := h.snapshots
  weights := h.weights
  fees := h.fees
  bribes := by
    show ∀ b ∈ l.bribes.records, _
    rw [hl.bribes]
    exact h.bribes
  settled_once := by
    intro k' hk' c' hc' hsame
    obtain ⟨k, hk, hkey⟩ := hl.clawbacks k' hk'
    obtain ⟨c, hc, hckey⟩ := hl.claims c' hc'
    refine h.settled_once k hk c hc ⟨?_, ?_⟩
    · rw [hkey.1, hckey.1, hsame.1]
    · rw [hkey.2, hckey.2, hsame.2]

/-- What an audit that passes says of the stored totals: the power of a gauge is what can be
claimed with, and what is orphaned or hidden; a bribe's counters are what its vault lacks of
the escrow; and which amounts have been claimed or clawed back is left open. -/
theorem totals_of_audit (h : e.audit tokens = .ok ()) :
    (∀ r ∈ e.commitments.epochGauges.records,
      r.totalPower.toNat = e.commitments.claimable r.gauge r.epoch +
        e.commitments.orphaned r.gauge r.epoch + e.commitments.hidden r.gauge r.epoch) ∧
    (∀ b ∈ e.bribes.bribes.records,
      (tokens.balance b.mint b.vault).toNat + b.claimedAmount.toNat + b.clawedBackAmount.toNat =
        b.rewardPerEpoch.toNat * b.numEpochs.toNat) ∧
    ∀ l : BribeLedger, l.SettledIn e.bribes →
      { e with bribes := l }.audit tokens = .ok () := by
  have haudited := audit_eq_ok_iff.mp h
  refine ⟨fun r hr => ?_, fun b hb => (haudited.bribes b hb).2, fun l hl => ?_⟩
  · rw [(haudited.epochGauges r hr).2]
    exact e.commitments.live_add_closed r.gauge r.epoch
  · exact audit_eq_ok_iff.mpr (haudited.of_settledIn hl)

end Engine

namespace Sample

/-- Books that no run leaves but a store can hold.  Of the power 60 of the gauge 30 is closed
behind the first voter's live vote of 20, and 10 belongs to a voter without a snapshot.  The
bribe has paid 15 of its 60, and nobody has claimed it. -/
def brokenBooks : Engine :=
  { deployment.engine with
    commitments := {
      epochGauges := Table.empty.insert {
        gauge := account 1
        epoch := 1
        totalPower := 60
        closedPower := 30
        accruedFees := PerSide.both 0 }
      snapshots := Table.empty.insert {
        Snapshot.fresh (account 4) 1 100 1 with
        allocatedPower := 50
        closedPower := 30
        closedAllocations := Table.empty.insert ⟨account 1, 30⟩ }
      votes := (Table.empty.insert ⟨account 4, account 1, 1, 20⟩).insert
        ⟨account 7, account 1, 1, 10⟩ }
    bribes := { BribeLedger.empty with
      bribes := Table.empty.insert {
        id := 0
        gauge := account 1
        briber := account 6
        mint := account 5
        rewardPerEpoch := 20
        epochStart := 1
        epochEnd := 4
        claimedAmount := 15
        clawedBackAmount := 0 } } }

/-- The bribe's vault holds what its counters leave. -/
def brokenTokens : TokenLedger :=
  TokenLedger.empty.setBalance (account 5) (Account.bribeVault 0) 45

theorem totals_of_audit_brokenBooks :
    Engine.load (brokenBooks.save Store.empty) = .ok brokenBooks ∧
      brokenBooks.audit brokenTokens = .ok () ∧
      brokenBooks.commitments.power (account 1) 1 = 60 ∧
      brokenBooks.commitments.claimable (account 1) 1 = 20 ∧
      ∀ b ∈ brokenBooks.bribes.bribes.records,
        b.claimedAmount.toNat = 15 ∧ brokenBooks.bribes.claimedOf b.id = 0 := by
  have hpasses : brokenBooks.audit brokenTokens = .ok () := by
    decide +kernel
  have hcountable : brokenBooks.commitments.Countable := by
    unfold Commitments.Countable
    decide +kernel
  obtain ⟨hpower, -⟩ := Engine.totals_of_audit hpasses
  have htotal : 60 = brokenBooks.commitments.claimable (account 1) 1 +
      brokenBooks.commitments.orphaned (account 1) 1 +
      brokenBooks.commitments.hidden (account 1) 1 :=
    hpower ⟨account 1, 1, 60, 30, PerSide.both 0⟩ (by decide +kernel)
  have horphaned : brokenBooks.commitments.orphaned (account 1) 1 = 10 := by
    decide +kernel
  have hhidden : brokenBooks.commitments.hidden (account 1) 1 = 30 := by
    decide +kernel
  refine ⟨Engine.load_save hcountable, hpasses, by decide +kernel, ?_, by decide +kernel⟩
  omega

end Sample

namespace Deployment

variable {foreman : Address} {params : FactoryParams} {maxLockSecs : UInt64} {d : Deployment}

/-- After every run from a new deployment all power of a gauge can be claimed with, and the
counters of a bribe are the sums of what was claimed and clawed back. -/
theorem totals_along_run (hcreate : create foreman params maxLockSecs = .ok d)
    (run : List Operation) :
    (∀ r ∈ (d.afterAll run).engine.commitments.epochGauges.records,
      r.totalPower.toNat = (d.afterAll run).engine.commitments.claimable r.gauge r.epoch) ∧
    ∀ b ∈ (d.afterAll run).engine.bribes.bribes.records,
      b.claimedAmount.toNat = (d.afterAll run).engine.bribes.claimedOf b.id ∧
      b.clawedBackAmount.toNat = (d.afterAll run).engine.bribes.clawedBackOf b.id := by
  have hsound := sound_afterAll hcreate run
  generalize (d.afterAll run).engine = e at hsound
  constructor
  · intro r hr
    have hpower := hsound.power.consistent.power_eq r.gauge r.epoch
    have hread := e.commitments.live_add_closed r.gauge r.epoch
    obtain ⟨horphaned, hhidden⟩ := hsound.power.consistent.all_claimable r.gauge r.epoch
    rw [Commitments.power_of_epochGauge? (Commitments.epochGauge?_of_mem hr)] at hpower
    omega
  · intro b hb
    have hbribe : e.bribes.bribes.find? b.id = some b := Table.find?_key_of_mem hb
    exact ⟨hsound.bribes.claimed_eq b.id b hbribe, hsound.bribes.clawedBack_eq b.id b hbribe⟩

end Deployment
end EpochVoting
