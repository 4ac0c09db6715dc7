import EpochVoting.Proofs.Stakes

/-!
# Elapsed epochs are final

No change moves the power of a gauge in an elapsed epoch, a voter's allocation in it,
or the fees of a record with power.  Closing a commitment moves the allocation from the
live to the closed ones, and a record is only removed if it has no power; neither shows
in these numbers.
-/

namespace EpochVoting

namespace Commitments

variable {c c' c'' : Commitments} {n : Epoch}

/-- The fees of a side recorded for a gauge in an epoch; zero without a record. -/
def feesAt (c : Commitments) (gauge : Address) (epoch : Epoch) (side : FeeSide) : Nat :=
  (c.epochGauge? gauge epoch).elim 0 fun r => (r.accruedFee side).toNat

/-- A voter's allocation to a gauge in an epoch, live or closed; zero if there is none. -/
def allocationOf (c : Commitments) (voter gauge : Address) (epoch : Epoch) : Nat :=
  (c.allocation? voter gauge epoch).elim 0 UInt64.toNat

theorem feesAt_of_epochGauge? {gauge : Address} {epoch : Epoch} {r : EpochGauge}
    (h : c.epochGauge? gauge epoch = some r) (side : FeeSide) :
    c.feesAt gauge epoch side = (r.accruedFee side).toNat := by
  unfold feesAt
  rw [h]
  rfl

/-- The same powers, allocations and fees in the epochs before `n`. -/
structure AgreeBefore (n : Epoch) (c c' : Commitments) : Prop where
  power : ∀ gauge epoch, epoch < n → c'.power gauge epoch = c.power gauge epoch
  allocation : ∀ voter gauge epoch, epoch < n →
    c'.allocation? voter gauge epoch = c.allocation? voter gauge epoch
  fees : ∀ gauge epoch side, epoch < n → c.power gauge epoch ≠ 0 →
    c'.feesAt gauge epoch side = c.feesAt gauge epoch side

namespace AgreeBefore

theorem refl (n : Epoch) (c : Commitments) : AgreeBefore n c c :=
  ⟨fun _ _ _ => rfl, fun _ _ _ _ => rfl, fun _ _ _ _ _ => rfl⟩

theorem trans (h : AgreeBefore n c c') (h' : AgreeBefore n c' c'') :
    AgreeBefore n c c'' where
  power gauge epoch hlt := (h'.power gauge epoch hlt).trans (h.power gauge epoch hlt)
  allocation voter gauge epoch hlt :=
    (h'.allocation voter gauge epoch hlt).trans (h.allocation voter gauge epoch hlt)
  fees gauge epoch side hlt hpower :=
    (h'.fees gauge epoch side hlt (by rw [h.power gauge epoch hlt]; exact hpower)).trans
      (h.fees gauge epoch side hlt hpower)

theorem allocationOf (h : AgreeBefore n c c') {voter gauge : Address} {epoch : Epoch}
    (hlt : epoch < n) :
    c'.allocationOf voter gauge epoch = c.allocationOf voter gauge epoch := by
  unfold Commitments.allocationOf
  rw [h.allocation voter gauge epoch hlt]

/-- Records that are only written for other epochs. -/
theorem of_lookups
    (hgauges : ∀ gauge epoch, epoch < n → c'.epochGauge? gauge epoch = c.epochGauge? gauge epoch)
    (hsnapshots : ∀ voter epoch, epoch < n → c'.snapshot? voter epoch = c.snapshot? voter epoch)
    (hvotes : ∀ voter gauge epoch, epoch < n →
      c'.vote? voter gauge epoch = c.vote? voter gauge epoch) : AgreeBefore n c c' := by
  constructor
  case power =>
    intro gauge epoch hlt
    unfold Commitments.power
    rw [hgauges gauge epoch hlt]
  case allocation =>
    intro voter gauge epoch hlt
    unfold allocation?
    rw [hvotes voter gauge epoch hlt, hsnapshots voter epoch hlt]
  case fees =>
    intro gauge epoch side hlt _
    unfold feesAt
    rw [hgauges gauge epoch hlt]

/-- A record and a snapshot written in the epoch `n`. -/
theorem of_current {r : EpochGauge} {s : Snapshot}
    (hgauges : c'.epochGauges = c.epochGauges.insert r) (hr : r.epoch = n)
    (hsnapshots : c'.snapshots = c.snapshots.insert s) (hs : s.epoch = n)
    (hvotes : ∀ voter gauge epoch, epoch < n →
      c'.vote? voter gauge epoch = c.vote? voter gauge epoch) : AgreeBefore n c c' := by
  refine of_lookups (fun gauge epoch hlt => ?_) (fun voter epoch hlt => ?_) hvotes
  · rw [epochGauge?_insert hgauges, hr, if_neg]
    exact fun hkey => UInt32.lt_irrefl n (hkey.2 ▸ hlt)
  · rw [snapshot?_insert hsnapshots, hs, if_neg]
    exact fun hkey => UInt32.lt_irrefl n (hkey.2 ▸ hlt)

/-- Records of epochs that keep power and fees, with the same allocations. -/
theorem of_insert {r r' : EpochGauge} (hgauges : c'.epochGauges = c.epochGauges.insert r')
    (hr : c.epochGauge? r'.gauge r'.epoch = some r)
    (hpower : r'.totalPower = r.totalPower) (hfees : r'.accruedFees = r.accruedFees)
    (hallocation : ∀ voter gauge epoch, c'.allocation? voter gauge epoch =
      c.allocation? voter gauge epoch) : AgreeBefore n c c' := by
  constructor
  case power =>
    intro gauge epoch _
    have hmove := power_replace hgauges hr gauge epoch
    rw [hpower] at hmove
    exact Nat.add_right_cancel hmove
  case allocation => exact fun voter gauge epoch _ => hallocation voter gauge epoch
  case fees =>
    intro gauge epoch side _ _
    unfold feesAt
    rw [epochGauge?_insert hgauges]
    split
    · next hkey =>
      obtain ⟨rfl, rfl⟩ := hkey
      rw [hr]
      show (r'.accruedFees.get side).toNat = (r.accruedFees.get side).toNat
      rw [hfees]
    · rfl

end AgreeBefore

/-! ## The writes that touch elapsed epochs -/

/-- A closed commitment is found on the snapshot where it was found among the votes. -/
theorem allocation?_closeVote {r : EpochGauge} {s : Snapshot} {x : EpochVote}
    {gaugeClosed voterClosed : UInt64}
    (hx : c.vote? x.voter x.gauge x.epoch = some x)
    (hs : c.snapshot? x.voter x.epoch = some s) (voter gauge : Address) (epoch : Epoch) :
    (c.closeVote r s x gaugeClosed voterClosed).allocation? voter gauge epoch =
      c.allocation? voter gauge epoch := by
  obtain ⟨hvoter, hepoch⟩ := key_of_snapshot? hs
  unfold allocation?
  rw [vote?_erase rfl, snapshot?_insert rfl]
  simp only [Snapshot.withClosed_voter, Snapshot.withClosed_epoch, hvoter, hepoch]
  by_cases hsnapshot : x.voter = voter ∧ x.epoch = epoch
  · obtain ⟨rfl, rfl⟩ := hsnapshot
    simp only [true_and, and_true, if_true]
    by_cases hgauge : x.gauge = gauge
    · subst hgauge
      rw [if_pos rfl, hx]
      show (s.withClosed voterClosed _).closedAllocation? x.gauge = some x.allocatedPower
      rw [Snapshot.closedAllocation?_withClosed, if_pos rfl]
    · have hclosed : (s.withClosed voterClosed ⟨x.gauge, x.allocatedPower⟩).closedAllocation?
          gauge = s.closedAllocation? gauge := by
        rw [Snapshot.closedAllocation?_withClosed, if_neg hgauge]
      rw [if_neg hgauge, hs, Option.bind_some, hclosed, Option.bind_some]
  · rw [if_neg hsnapshot, if_neg fun hkey => hsnapshot ⟨hkey.1, hkey.2.2⟩]

/-- A snapshot with the same closed allocations. -/
theorem allocation?_putSnapshot {s s' : Snapshot}
    (hs : c.snapshot? s'.voter s'.epoch = some s)
    (hsame : s'.closedAllocations = s.closedAllocations) (voter gauge : Address)
    (epoch : Epoch) :
    (c.putSnapshot s').allocation? voter gauge epoch = c.allocation? voter gauge epoch := by
  have hvote : (c.putSnapshot s').vote? voter gauge epoch = c.vote? voter gauge epoch := rfl
  have hsnapshot : (c.putSnapshot s').snapshot? voter epoch = _ :=
    snapshot?_insert rfl voter epoch
  unfold allocation?
  rw [hvote, hsnapshot]
  by_cases hkey : s'.voter = voter ∧ s'.epoch = epoch
  · obtain ⟨rfl, rfl⟩ := hkey
    have hclosed : s'.closedAllocation? gauge = s.closedAllocation? gauge := by
      unfold Snapshot.closedAllocation?
      rw [hsame]
    rw [if_pos ⟨rfl, rfl⟩, hs, Option.bind_some, hclosed, Option.bind_some]
  · rw [if_neg hkey]

end Commitments

namespace Engine

variable {e e' : Engine}

open Commitments in
/-- What was final stays as it was under every change. -/
theorem Change.final (h : e.Change e') :
    AgreeBefore e.currentEpoch e.commitments e'.commitments := by
  have hlive {epoch : Epoch} (hlt : epoch < e.currentEpoch) : ¬ e.currentEpoch = epoch :=
    fun heq => UInt32.lt_irrefl epoch (heq ▸ hlt)
  cases h with
  | @snapshotTaken voter power hnone =>
    refine .of_lookups (fun _ _ _ => rfl) (fun v epoch hlt => ?_) fun _ _ _ _ => rfl
    exact (snapshot?_insert rfl ..).trans (if_neg fun hkey => hlive hlt hkey.2)
  | @snapshotReset voter s power hs hzero =>
    have hepoch := (key_of_snapshot? hs).2
    refine .of_lookups (fun _ _ _ => rfl) (fun v epoch hlt => ?_) fun _ _ _ _ => rfl
    exact (snapshot?_insert rfl ..).trans (if_neg fun hkey => hlive hlt (hepoch ▸ hkey.2))
  | @captured target g totals capture hgauge henabled hnone hcapture =>
    refine .of_lookups (fun gauge epoch hlt => ?_) (fun _ _ _ => rfl) fun _ _ _ _ => rfl
    exact (epochGauge?_insert rfl ..).trans (if_neg fun hkey => hlive hlt hkey.2)
  | @committed g r s x gaugeTotal voterTotal hepoch hgauge henabled hnone hs hseqno hr =>
    have hrepoch := (key_of_epochGauge? hr).2.trans hepoch
    have hsepoch := (key_of_snapshot? hs).2.trans hepoch
    refine .of_current rfl hrepoch rfl hsepoch fun voter gauge epoch hlt => ?_
    exact (vote?_insert rfl ..).trans (if_neg fun hkey => hlive hlt (hepoch ▸ hkey.2.2))
  | @reverted r s x gaugeTotal voterTotal hepoch hx hr hs =>
    have hrepoch := (key_of_epochGauge? hr).2.trans hepoch
    have hsepoch := (key_of_snapshot? hs).2.trans hepoch
    refine .of_current rfl hrepoch rfl hsepoch fun voter gauge epoch hlt => ?_
    exact (vote?_erase rfl ..).trans (if_neg fun hkey => hlive hlt (hepoch ▸ hkey.2.2))
  | @closed r s x gaugeClosed voterClosed helapsed hx hr hs =>
    -- The record of the elapsed epoch is written, but neither its power nor its fees.
    have hrold := epochGauge?_self hr
    exact .of_insert rfl hrold rfl rfl (allocation?_closeVote hx hs)
  | @cleaned target epoch g r pruned helapsed hr hzero hgauge hpruned =>
    obtain rfl := Registry.target_of_find? hgauge
    -- Only a record without power is removed, and without a record there is none either.
    have hpower : e.commitments.power g.target epoch = 0 := by
      rw [power_of_epochGauge? hr, hzero]
      rfl
    constructor
    case power =>
      intro gauge epoch' _
      unfold power
      rw [epochGauge?_erase rfl]
      split
      · next hkey =>
        obtain ⟨rfl, rfl⟩ := hkey
        exact hpower.symm
      · rfl
    case allocation => exact fun _ _ _ _ => rfl
    case fees =>
      intro gauge epoch' side _ hne
      unfold feesAt
      rw [epochGauge?_erase rfl, if_neg]
      rintro ⟨rfl, rfl⟩
      exact hne hpower
  | @feeClaimed voter target epoch side g r s claim helapsed hgauge hr hs hclaim =>
    have hold : e.commitments.snapshot? (claim.applyToSnapshot g.target s).voter
        (claim.applyToSnapshot g.target s).epoch = some s :=
      snapshot?_self hs
    exact {
      power := fun _ _ _ => rfl
      allocation := fun v gauge epoch' _ => allocation?_putSnapshot hold rfl v gauge epoch'
      fees := fun _ _ _ _ _ => rfl }
  | _ => exact .refl _ _

end Engine
end EpochVoting
