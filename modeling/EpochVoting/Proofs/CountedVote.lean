import EpochVoting.Proofs.Commuting
import EpochVoting.Proofs.SpareChecks

/-!
# A vote counted besides

A commitment adds its power to two running totals and is recorded as a vote.  The records
with a vote counted besides (`Commitments.counting`) differ from those without it in these
three places only.  In the vote's own epoch every write that leaves the vote alone can be
made before or after counting it, and records of other epochs are the same.  So a call of
the engine that is not about the vote has the same answer on both engines, and leaves
engines of which one is again the other one with the vote counted (`Engine.Counts`).
-/

namespace EpochVoting

namespace EpochVote

/-- What the vote adds to the power of a gauge in an epoch. -/
def powerOn (x : EpochVote) (gauge : Address) (epoch : Epoch) : UInt64 :=
  if x.gauge = gauge ∧ x.epoch = epoch then x.allocatedPower else 0

/-- What the vote adds to the allocated power of a voter in an epoch. -/
def powerOf (x : EpochVote) (voter : Address) (epoch : Epoch) : UInt64 :=
  if x.voter = voter ∧ x.epoch = epoch then x.allocatedPower else 0

theorem toNat_powerOn (x : EpochVote) (gauge : Address) (epoch : Epoch) :
    (x.powerOn gauge epoch).toNat =
      if x.gauge = gauge ∧ x.epoch = epoch then x.allocatedPower.toNat else 0 := by
  unfold powerOn
  split <;> rfl

theorem toNat_powerOf (x : EpochVote) (voter : Address) (epoch : Epoch) :
    (x.powerOf voter epoch).toNat =
      if x.voter = voter ∧ x.epoch = epoch then x.allocatedPower.toNat else 0 := by
  unfold powerOf
  split <;> rfl

end EpochVote

/-! ## Records -/

/-- The record with a vote counted, which matters if it is for the gauge and of the epoch. -/
def EpochGauge.counting (r : EpochGauge) (x : EpochVote) : EpochGauge :=
  { r with totalPower := r.totalPower + x.powerOn r.gauge r.epoch }

/-- The snapshot with a vote counted, which matters if it is of the voter and the epoch. -/
def Snapshot.counting (s : Snapshot) (x : EpochVote) : Snapshot :=
  { s with allocatedPower := s.allocatedPower + x.powerOf s.voter s.epoch }

theorem EpochGauge.counting_of_ne {r : EpochGauge} {x : EpochVote}
    (h : Keyed.key r ≠ (x.gauge, x.epoch)) : r.counting x = r := by
  have hzero : x.powerOn r.gauge r.epoch = 0 := if_neg fun ⟨hgauge, hepoch⟩ =>
    h (Prod.ext hgauge.symm hepoch.symm)
  unfold counting
  rw [hzero, UInt64.add_zero]

theorem Snapshot.counting_of_ne {s : Snapshot} {x : EpochVote}
    (h : Keyed.key s ≠ (x.voter, x.epoch)) : s.counting x = s := by
  have hzero : x.powerOf s.voter s.epoch = 0 := if_neg fun ⟨hvoter, hepoch⟩ =>
    h (Prod.ext hvoter.symm hepoch.symm)
  unfold counting
  rw [hzero, UInt64.add_zero]

namespace Commitments

/-- The records with a vote counted besides. -/
def counting (c : Commitments) (x : EpochVote) : Commitments where
  epochGauges := c.epochGauges.modify (x.gauge, x.epoch) fun r => r.counting x
  snapshots := c.snapshots.modify (x.voter, x.epoch) fun s => s.counting x
  votes := c.votes.insert x

variable {c c' : Commitments} {x y : EpochVote} {r : EpochGauge} {s : Snapshot}
  {voter gauge : Address} {epoch now : Epoch}

/-! ### Lookups -/

theorem epochGauge?_counting (c : Commitments) (x : EpochVote) (gauge : Address) (epoch : Epoch) :
    (c.counting x).epochGauge? gauge epoch =
      (c.epochGauge? gauge epoch).map fun r => r.counting x :=
  Table.find?_modify_all (f := fun r => EpochGauge.counting r x) (fun _ => rfl)
    (fun _ => EpochGauge.counting_of_ne) c.epochGauges (gauge, epoch)

theorem snapshot?_counting (c : Commitments) (x : EpochVote) (voter : Address) (epoch : Epoch) :
    (c.counting x).snapshot? voter epoch =
      (c.snapshot? voter epoch).map fun s => s.counting x :=
  Table.find?_modify_all (f := fun s => Snapshot.counting s x) (fun _ => rfl)
    (fun _ => Snapshot.counting_of_ne) c.snapshots (voter, epoch)

theorem vote?_counting (c : Commitments) (x : EpochVote) (voter gauge : Address) (epoch : Epoch) :
    (c.counting x).vote? voter gauge epoch =
      if x.voter = voter ∧ x.gauge = gauge ∧ x.epoch = epoch then some x
      else c.vote? voter gauge epoch :=
  vote?_insert rfl voter gauge epoch

theorem vote?_counting_self (c : Commitments) (x : EpochVote) :
    (c.counting x).vote? x.voter x.gauge x.epoch = some x :=
  (vote?_counting c x _ _ _).trans (if_pos ⟨rfl, rfl, rfl⟩)

/-- Other votes are found or not found as before. -/
theorem vote?_counting_of_ne (hother : ¬ (voter = x.voter ∧ gauge = x.gauge)) :
    (c.counting x).vote? voter gauge epoch = c.vote? voter gauge epoch :=
  (vote?_counting c x _ _ _).trans (if_neg fun ⟨hvoter, hgauge, _⟩ =>
    hother ⟨hvoter.symm, hgauge.symm⟩)

/-- In other epochs nothing is different. -/
theorem sameAt_counting (hne : epoch ≠ x.epoch) : SameAt epoch c (c.counting x) where
  gauges k hk := by
    have hfound := epochGauge?_counting c x k.1 k.2
    refine hfound.trans ?_
    show _ = c.epochGauge? k.1 k.2
    cases hr : c.epochGauge? k.1 k.2 with
    | none => rfl
    | some r =>
      obtain ⟨-, hepoch⟩ := key_of_epochGauge? hr
      rw [Option.map_some, EpochGauge.counting_of_ne]
      exact fun hkey => hne ((hk.symm.trans hepoch.symm).trans (Prod.mk.inj hkey).2)
  snapshots k hk := by
    have hfound := snapshot?_counting c x k.1 k.2
    refine hfound.trans ?_
    show _ = c.snapshot? k.1 k.2
    cases hs : c.snapshot? k.1 k.2 with
    | none => rfl
    | some s =>
      obtain ⟨-, hepoch⟩ := key_of_snapshot? hs
      rw [Option.map_some, Snapshot.counting_of_ne]
      exact fun hkey => hne ((hk.symm.trans hepoch.symm).trans (Prod.mk.inj hkey).2)
  votes := Table.sameOn_insert fun heq => hne heq.symm

/-! ### Writes -/

theorem insert_epochGauge_counting (c : Commitments) (x : EpochVote) (r : EpochGauge) :
    (c.counting x).epochGauges.insert (r.counting x) =
      (c.epochGauges.insert r).modify (x.gauge, x.epoch) fun r => r.counting x :=
  Table.insert_modify (f := fun r => EpochGauge.counting r x) (fun _ => rfl)
    (fun _ => EpochGauge.counting_of_ne) c.epochGauges r

theorem insert_snapshot_counting (c : Commitments) (x : EpochVote) (s : Snapshot) :
    (c.counting x).snapshots.insert (s.counting x) =
      (c.snapshots.insert s).modify (x.voter, x.epoch) fun s => s.counting x :=
  Table.insert_modify (f := fun s => Snapshot.counting s x) (fun _ => rfl)
    (fun _ => Snapshot.counting_of_ne) c.snapshots s

theorem putEpochGauge_counting (c : Commitments) (x : EpochVote) (r : EpochGauge) :
    (c.counting x).putEpochGauge (r.counting x) = (c.putEpochGauge r).counting x :=
  congrArg (Commitments.mk · _ _) (insert_epochGauge_counting c x r)

theorem putSnapshot_counting (c : Commitments) (x : EpochVote) (s : Snapshot) :
    (c.counting x).putSnapshot (s.counting x) = (c.putSnapshot s).counting x :=
  congrArg (Commitments.mk _ · _) (insert_snapshot_counting c x s)

theorem eraseEpochGauge_counting (c : Commitments) (x : EpochVote) (gauge : Address)
    (epoch : Epoch) :
    { c.counting x with epochGauges := (c.counting x).epochGauges.erase (gauge, epoch) } =
      counting { c with epochGauges := c.epochGauges.erase (gauge, epoch) } x :=
  congrArg (Commitments.mk · _ _)
    (Table.modify_erase_comm (f := fun r => EpochGauge.counting r x) (fun _ => rfl)
      c.epochGauges (x.gauge, x.epoch) (gauge, epoch)).symm

theorem addVote_counting (hother : Keyed.key y ≠ Keyed.key x) {gaugeTotal voterTotal : UInt64} :
    (c.counting x).addVote (r.counting x) (s.counting x) y
        (gaugeTotal + x.powerOn r.gauge r.epoch) (voterTotal + x.powerOf s.voter s.epoch) =
      (c.addVote r s y gaugeTotal voterTotal).counting x := by
  unfold addVote
  refine congr (congr (congrArg Commitments.mk ?_) ?_) (Table.insert_comm c.votes hother)
  · exact insert_epochGauge_counting c x { r with totalPower := gaugeTotal }
  · exact insert_snapshot_counting c x { s with allocatedPower := voterTotal }

theorem removeVote_counting (hother : Keyed.key y ≠ Keyed.key x)
    {gaugeTotal voterTotal : UInt64} :
    (c.counting x).removeVote (r.counting x) (s.counting x) y
        (gaugeTotal + x.powerOn r.gauge r.epoch) (voterTotal + x.powerOf s.voter s.epoch) =
      (c.removeVote r s y gaugeTotal voterTotal).counting x := by
  unfold removeVote
  refine congr (congr (congrArg Commitments.mk ?_) ?_)
    (Table.insert_erase_comm c.votes fun heq => hother heq.symm)
  · exact insert_epochGauge_counting c x { r with totalPower := gaugeTotal }
  · exact insert_snapshot_counting c x { s with allocatedPower := voterTotal }

theorem closeVote_counting (hother : Keyed.key y ≠ Keyed.key x)
    {gaugeClosed voterClosed : UInt64} :
    (c.counting x).closeVote (r.counting x) (s.counting x) y gaugeClosed voterClosed =
      (c.closeVote r s y gaugeClosed voterClosed).counting x := by
  unfold closeVote
  refine congr (congr (congrArg Commitments.mk ?_) ?_)
    (Table.insert_erase_comm c.votes fun heq => hother heq.symm)
  · exact insert_epochGauge_counting c x { r with closedPower := gaugeClosed }
  · exact insert_snapshot_counting c x (s.withClosed voterClosed ⟨y.gauge, y.allocatedPower⟩)

/-- Committing counts the vote. -/
theorem addVote_eq_counting (hr : c.epochGauge? x.gauge x.epoch = some r)
    (hs : c.snapshot? x.voter x.epoch = some s) :
    c.addVote r s x (r.totalPower + x.allocatedPower) (s.allocatedPower + x.allocatedPower) =
      c.counting x := by
  have hgauge : ({ r with totalPower := r.totalPower + x.allocatedPower } : EpochGauge) =
      r.counting x := by
    obtain ⟨hname, hepoch⟩ := key_of_epochGauge? hr
    unfold EpochGauge.counting EpochVote.powerOn
    rw [if_pos ⟨hname.symm, hepoch.symm⟩]
  have hvoter : ({ s with allocatedPower := s.allocatedPower + x.allocatedPower } : Snapshot) =
      s.counting x := by
    obtain ⟨hname, hepoch⟩ := key_of_snapshot? hs
    unfold Snapshot.counting EpochVote.powerOf
    rw [if_pos ⟨hname.symm, hepoch.symm⟩]
  unfold addVote counting
  rw [hgauge, hvoter, Table.modify_of_find? (f := fun r => EpochGauge.counting r x) hr,
    Table.modify_of_find? (f := fun s => Snapshot.counting s x) hs]

/-- Taking the vote back uncounts it. -/
theorem removeVote_counting_self (hfree : c.vote? x.voter x.gauge x.epoch = none)
    (hr : c.epochGauge? x.gauge x.epoch = some r) (hs : c.snapshot? x.voter x.epoch = some s) :
    (c.counting x).removeVote (r.counting x) (s.counting x) x r.totalPower s.allocatedPower =
      c := by
  refine congr (congr (congrArg Commitments.mk ?_) ?_) (Table.erase_insert_self hfree)
  · exact Table.insert_modify_self (f := fun r => EpochGauge.counting r x) (fun _ => rfl) hr
  · exact Table.insert_modify_self (f := fun s => Snapshot.counting s x) (fun _ => rfl) hs

end Commitments
end EpochVoting
