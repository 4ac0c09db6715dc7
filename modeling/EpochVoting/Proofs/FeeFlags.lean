import EpochVoting.Proofs.Finality

/-!
# Claimed fees

Which fees have been claimed is recorded by flags on the voters' snapshots.  A flag is
only set for an elapsed epoch in which the gauge has power and the voter an allocation,
and then the amount that was paid can be read off the records for good: it is the
voter's part of the epoch's fees.  The parts of one epoch add up to no more than the
epoch's fees.
-/

namespace EpochVoting

namespace Snapshot

variable {s s' : Snapshot}

theorem feeClaimed_congr (h : s'.feeClaims = s.feeClaims) (gauge : Address)
    (side : FeeSide) : s'.feeClaimed gauge side = s.feeClaimed gauge side := by
  unfold feeClaimed flags
  rw [h]

theorem feeClaimed_of_empty (h : s.feeClaims = Table.empty) (gauge : Address)
    (side : FeeSide) : s.feeClaimed gauge side = false := by
  unfold feeClaimed flags
  rw [h]
  exact PerSide.get_both false side

theorem flags_markFeeClaimed (gauge gauge' : Address) (side : FeeSide) :
    (s.markFeeClaimed gauge side).flags gauge' =
      if gauge = gauge' then (s.flags gauge).set side true else s.flags gauge' := by
  unfold markFeeClaimed
  unfold flags
  rw [Table.find?_insert_ite]
  simp only [Keyed.key]
  split <;> rfl

theorem feeClaimed_markFeeClaimed (gauge gauge' : Address) (side side' : FeeSide) :
    (s.markFeeClaimed gauge side).feeClaimed gauge' side' =
      if gauge = gauge' ∧ side = side' then true else s.feeClaimed gauge' side' := by
  unfold feeClaimed
  rw [flags_markFeeClaimed]
  by_cases hgauge : gauge = gauge'
  · subst hgauge
    rw [if_pos rfl]
    by_cases hside : side = side'
    · subst hside
      rw [if_pos ⟨rfl, rfl⟩]
      exact PerSide.get_set_self ..
    · rw [if_neg fun hkey => hside hkey.2]
      exact PerSide.get_set_of_ne _ _ hside
  · rw [if_neg hgauge, if_neg fun hkey => hgauge hkey.1]

end Snapshot

namespace Commitments

variable {c c' : Commitments} {now later : Epoch} {gauge : Address} {side : FeeSide}
  {s s' : Snapshot}

/-- A voter's part of a side's fees of an epoch. -/
def feeShare (c : Commitments) (voter gauge : Address) (epoch : Epoch) (side : FeeSide) :
    Nat :=
  c.feesAt gauge epoch side * c.allocationOf voter gauge epoch / c.power gauge epoch

/-- What was paid for the fees of a gauge on a snapshot. -/
def paidTo (c : Commitments) (gauge : Address) (side : FeeSide) (s : Snapshot) : Nat :=
  if s.feeClaimed gauge side = true then c.feeShare s.voter gauge s.epoch side else 0

/-- What was paid for the fees of a gauge. -/
def paidOn (c : Commitments) (gauge : Address) (side : FeeSide) : Nat :=
  c.snapshots.total (c.paidTo gauge side)

/-- What was paid for the fees of a gauge in an epoch. -/
def paidIn (c : Commitments) (gauge : Address) (epoch : Epoch) (side : FeeSide) : Nat :=
  c.snapshots.total fun s => if s.epoch = epoch then c.paidTo gauge side s else 0

/-- The fees in all records of a gauge. -/
def feesOn (c : Commitments) (gauge : Address) (side : FeeSide) : Nat :=
  c.epochGauges.total fun r => if r.gauge = gauge then (r.accruedFee side).toNat else 0

/-- Every claim was made in an elapsed epoch, on a gauge with power, by a voter with an
allocation to it. -/
def FlagsSound (c : Commitments) (now : Epoch) : Prop :=
  ∀ s ∈ c.snapshots.records, ∀ gauge side, s.feeClaimed gauge side = true →
    s.epoch < now ∧ c.power gauge s.epoch ≠ 0 ∧
      ∃ a, c.allocation? s.voter gauge s.epoch = some a

/-- The flags of a snapshot are those of the snapshot it replaces, none if it is new. -/
def SameFlags (c : Commitments) (s' : Snapshot) : Prop :=
  ∀ gauge side, s'.feeClaimed gauge side =
    (c.snapshot? s'.voter s'.epoch).elim false fun s => s.feeClaimed gauge side

theorem flagsSound_empty (now : Epoch) : empty.FlagsSound now :=
  fun _ h => by cases h

theorem sameFlags_of_some (hs : c.snapshot? s'.voter s'.epoch = some s)
    (h : s'.feeClaims = s.feeClaims) : c.SameFlags s' := by
  intro gauge side
  rw [hs]
  exact Snapshot.feeClaimed_congr h gauge side

theorem sameFlags_of_none (hnone : c.snapshot? s'.voter s'.epoch = none)
    (h : s'.feeClaims = Table.empty) : c.SameFlags s' := by
  intro gauge side
  rw [hnone]
  exact Snapshot.feeClaimed_of_empty h gauge side

/-! ## What was paid is final -/

theorem feeShare_agree (hagree : AgreeBefore now c c') {voter : Address} {epoch : Epoch}
    (hlt : epoch < now) (hpower : c.power gauge epoch ≠ 0) :
    c'.feeShare voter gauge epoch side = c.feeShare voter gauge epoch side := by
  unfold feeShare
  rw [hagree.fees gauge epoch side hlt hpower, hagree.allocationOf hlt,
    hagree.power gauge epoch hlt]

theorem paidTo_agree (h : c.FlagsSound now) (hagree : AgreeBefore now c c')
    (hs : s ∈ c.snapshots.records) : c'.paidTo gauge side s = c.paidTo gauge side s := by
  unfold paidTo
  by_cases hflag : s.feeClaimed gauge side = true
  · obtain ⟨hlt, hpower, -⟩ := h s hs gauge side hflag
    rw [if_pos hflag, if_pos hflag, feeShare_agree hagree hlt hpower]
  · rw [if_neg hflag, if_neg hflag]

theorem FlagsSound.advance (h : c.FlagsSound now) (hle : now ≤ later) : c.FlagsSound later :=
  fun s hs gauge side hflag =>
    have ⟨hlt, hrest⟩ := h s hs gauge side hflag
    ⟨UInt32.lt_of_lt_of_le hlt hle, hrest⟩

/-- What a flag says is final. -/
theorem FlagsSound.kept (h : c.FlagsSound now) (hagree : AgreeBefore now c c') :
    ∀ s ∈ c.snapshots.records, ∀ gauge side, s.feeClaimed gauge side = true →
      s.epoch < now ∧ c'.power gauge s.epoch ≠ 0 ∧
        ∃ a, c'.allocation? s.voter gauge s.epoch = some a := by
  intro s hs gauge side hflag
  obtain ⟨hlt, hpower, hallocation⟩ := h s hs gauge side hflag
  rw [hagree.power gauge s.epoch hlt, hagree.allocation s.voter gauge s.epoch hlt]
  exact ⟨hlt, hpower, hallocation⟩

theorem FlagsSound.agree (h : c.FlagsSound now) (hagree : AgreeBefore now c c')
    (hsnapshots : c'.snapshots = c.snapshots) : c'.FlagsSound now := by
  unfold FlagsSound
  rw [hsnapshots]
  exact h.kept hagree

theorem FlagsSound.put (h : c.FlagsSound now) (hagree : AgreeBefore now c c')
    (hsnapshots : c'.snapshots = c.snapshots.insert s') (hflags : c.SameFlags s') :
    c'.FlagsSound now := by
  unfold FlagsSound
  rw [hsnapshots]
  have hkeep := h.kept hagree
  refine Table.forall_insert (fun gauge side hflag => ?_) hkeep
  rw [hflags gauge side] at hflag
  cases hs : c.snapshot? s'.voter s'.epoch with
  | none =>
    rw [hs] at hflag
    cases hflag
  | some s =>
    rw [hs] at hflag
    obtain ⟨hvoter, hepoch⟩ := key_of_snapshot? hs
    rw [← hvoter, ← hepoch]
    exact hkeep s (Table.mem_of_find? hs) gauge side hflag

theorem paidOn_agree (h : c.FlagsSound now) (hagree : AgreeBefore now c c')
    (hsnapshots : c'.snapshots = c.snapshots) :
    c'.paidOn gauge side = c.paidOn gauge side := by
  unfold paidOn
  rw [hsnapshots]
  exact Table.total_congr fun s hs => paidTo_agree h hagree hs

theorem paidOn_put (h : c.FlagsSound now) (hagree : AgreeBefore now c c')
    (hsnapshots : c'.snapshots = c.snapshots.insert s') (hflags : c.SameFlags s') :
    c'.paidOn gauge side = c.paidOn gauge side := by
  have hsum := Table.total_insert c.snapshots s' (c'.paidTo gauge side)
  have hold : c.snapshots.total (c'.paidTo gauge side) = c.paidOn gauge side :=
    Table.total_congr fun s hs => paidTo_agree h hagree hs
  have hflag := hflags gauge side
  rw [hold, ← hsnapshots] at hsum
  change c'.paidOn gauge side + (c.snapshot? s'.voter s'.epoch).elim 0 _ = _ at hsum
  cases hs : c.snapshot? s'.voter s'.epoch with
  | none =>
    rw [hs] at hsum hflag
    have hzero : c'.paidTo gauge side s' = 0 := by
      unfold paidTo
      rw [hflag]
      rfl
    rw [hzero] at hsum
    exact hsum
  | some s =>
    rw [hs] at hsum hflag
    obtain ⟨hvoter, hepoch⟩ := key_of_snapshot? hs
    have hsame : c'.paidTo gauge side s' = c'.paidTo gauge side s := by
      unfold paidTo
      rw [hflag, hvoter, hepoch]
      rfl
    rw [hsame] at hsum
    exact Nat.add_right_cancel hsum

/-- A claim adds the voter's part to what was paid. -/
theorem paidOn_mark {target : Address} {claimed : FeeSide} (h : c.FlagsSound now)
    (hagree : AgreeBefore now c c') (hs : c.snapshot? s.voter s.epoch = some s)
    (hsnapshots : c'.snapshots = c.snapshots.insert (s.markFeeClaimed target claimed))
    (hnew : s.feeClaimed target claimed = false) (hlt : s.epoch < now)
    (hpower : c.power target s.epoch ≠ 0) :
    c'.paidOn gauge side = c.paidOn gauge side +
      if target = gauge ∧ claimed = side then c.feeShare s.voter target s.epoch claimed
      else 0 := by
  have hold : c.snapshots.total (c'.paidTo gauge side) = c.paidOn gauge side :=
    Table.total_congr fun s hs => paidTo_agree h hagree hs
  have hsum : c'.paidOn gauge side + c'.paidTo gauge side s =
      c.paidOn gauge side + c'.paidTo gauge side (s.markFeeClaimed target claimed) := by
    rw [← hold]
    unfold paidOn
    rw [hsnapshots]
    exact Table.total_insert_of_some _ hs
  unfold paidTo at hsum
  rw [Snapshot.feeClaimed_markFeeClaimed] at hsum
  by_cases hkey : target = gauge ∧ claimed = side
  · rw [if_pos hkey]
    obtain ⟨rfl, rfl⟩ := hkey
    rw [← feeShare_agree hagree hlt hpower]
    simp only [hnew, Bool.false_eq_true, and_self, if_true, if_false] at hsum
    exact hsum
  · rw [if_neg hkey]
    simp only [if_neg hkey] at hsum
    exact Nat.add_right_cancel hsum

theorem FlagsSound.mark {target : Address} {claimed : FeeSide} {a : UInt64}
    (h : c.FlagsSound now) (hagree : AgreeBefore now c c')
    (hs : c.snapshot? s.voter s.epoch = some s)
    (hsnapshots : c'.snapshots = c.snapshots.insert (s.markFeeClaimed target claimed))
    (hlt : s.epoch < now) (hpower : c.power target s.epoch ≠ 0)
    (hallocation : c.allocation? s.voter target s.epoch = some a) : c'.FlagsSound now := by
  have hkeep := h.kept hagree
  unfold FlagsSound
  rw [hsnapshots]
  refine Table.forall_insert (fun gauge side hflag => ?_) hkeep
  rw [Snapshot.feeClaimed_markFeeClaimed] at hflag
  by_cases hkey : target = gauge ∧ claimed = side
  · obtain ⟨rfl, rfl⟩ := hkey
    refine ⟨hlt, ?_, a, ?_⟩
    · rw [← hagree.power target s.epoch hlt] at hpower
      exact hpower
    · rw [← hagree.allocation s.voter target s.epoch hlt] at hallocation
      exact hallocation
  · rw [if_neg hkey] at hflag
    exact hkeep s (Table.mem_of_find? hs) gauge side hflag

/-! ## The fees of the records -/

/-- A record replaced by one with the same fees. -/
theorem feesOn_replace {r r' : EpochGauge} (h : c'.epochGauges = c.epochGauges.insert r')
    (hr : c.epochGauge? r'.gauge r'.epoch = some r) (hfees : r'.accruedFees = r.accruedFees) :
    c'.feesOn gauge side = c.feesOn gauge side := by
  unfold feesOn
  rw [h]
  refine Table.total_insert_same hr ?_
  rw [(key_of_epochGauge? hr).1]
  unfold EpochGauge.accruedFee
  rw [hfees]

theorem feesOn_new {r : EpochGauge} (hnone : c.epochGauge? r.gauge r.epoch = none)
    (h : c'.epochGauges = c.epochGauges.insert r) :
    c'.feesOn gauge side = c.feesOn gauge side +
      if r.gauge = gauge then (r.accruedFee side).toNat else 0 := by
  unfold feesOn
  rw [h]
  exact Table.total_insert_of_none _ hnone

theorem feesOn_erase {target : Address} {epoch : Epoch} {r : EpochGauge}
    (hr : c.epochGauge? target epoch = some r)
    (h : c'.epochGauges = c.epochGauges.erase (target, epoch)) :
    c'.feesOn gauge side + (if target = gauge then (r.accruedFee side).toNat else 0) =
      c.feesOn gauge side := by
  obtain ⟨rfl, -⟩ := key_of_epochGauge? hr
  unfold feesOn
  rw [h]
  exact Table.total_erase_of_some _ hr

/-- A gauge that is not registered has neither records nor claims. -/
theorem feesOn_eq_zero (h : ∀ r ∈ c.epochGauges.records, r.gauge ≠ gauge) :
    c.feesOn gauge side = 0 :=
  Table.total_eq_zero_iff.mpr fun r hr => if_neg (h r hr)

theorem FlagsSound.paidOn_eq_zero (hflags : c.FlagsSound now)
    (h : ∀ r ∈ c.epochGauges.records, r.gauge ≠ gauge) : c.paidOn gauge side = 0 := by
  refine Table.total_eq_zero_iff.mpr fun s hs => if_neg fun hflag => ?_
  obtain ⟨-, hpower, -⟩ := hflags s hs gauge side hflag
  obtain ⟨r, hr⟩ := epochGauge?_of_power_ne_zero hpower
  exact h r (Table.mem_of_find? hr) (key_of_epochGauge? hr).1

end Commitments
end EpochVoting
