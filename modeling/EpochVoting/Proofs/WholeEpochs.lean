import EpochVoting.Proofs.Captures
import EpochVoting.Proofs.SpareChecks
import Mathlib.Algebra.BigOperators.Group.Finset.Basic

/-!
# Voting a whole epoch

A voter votes a whole epoch by taking a snapshot and committing to one gauge after the other.
In a reachable state none of these calls is refused, as long as the gauges are enabled and
their power has room for the voter's (`Capturable.round` for one gauge, `Capturable.rounds` for
all of them).  If no gauge with weight is left out, then the parts that are committed are in
proportion to weights that add up to the voter's total, so all that is lost is what each part
loses to rounding, and it does not matter in which order the gauges come
(`whole_epoch_committed`).
-/

namespace EpochVoting

/-! ## The parts of a power -/

namespace WeightBook

variable {b : WeightBook} {voter gauge : Address} {gauges : List Address}

/-- The part of a power that the weight on a gauge is of all of the voter's weights. -/
def share (b : WeightBook) (voter : Address) (power : Nat) (gauge : Address) : Nat :=
  power * (b.weight voter gauge).toNat / (b.totalWeight voter).toNat

/-- The gauges on which a voter has weight. -/
def weighted (b : WeightBook) (voter : Address) : List Address :=
  (b.weights.records.filter fun w => w.voter == voter && w.weight != 0).map GaugeWeight.gauge

theorem weight_of_mem {w : GaugeWeight} (hw : w ∈ b.weights.records) :
    b.weight w.voter w.gauge = w.weight := by
  have hfound : b.weights.find? (w.voter, w.gauge) = some w := Table.find?_key_of_mem hw
  simp [WeightBook.weight, hfound]

@[simp] theorem mem_weighted_iff : gauge ∈ b.weighted voter ↔ b.weight voter gauge ≠ 0 := by
  simp only [weighted, List.mem_map, List.mem_filter, Bool.and_eq_true, beq_iff_eq, bne_iff_ne]
  constructor
  · rintro ⟨w, ⟨hw, rfl, hweight⟩, rfl⟩
    rwa [weight_of_mem hw]
  · intro hweight
    cases hfound : b.weights.find? (voter, gauge) with
    | none => simp [WeightBook.weight, hfound] at hweight
    | some w =>
      obtain ⟨hvoter, hgauge⟩ := Prod.mk.inj (Table.key_of_find? hfound)
      have hne : w.weight ≠ 0 := by simpa [WeightBook.weight, hfound] using hweight
      exact ⟨w, ⟨Table.mem_of_find? hfound, hvoter, hne⟩, hgauge⟩

/-- No gauge is listed twice. -/
theorem nodup_weighted (b : WeightBook) (voter : Address) : (b.weighted voter).Nodup := by
  refine (b.weights.nodup_records.filter _).map_on fun w hw w' hw' hgauge => ?_
  simp only [List.mem_filter, Bool.and_eq_true, beq_iff_eq] at hw hw'
  exact Table.eq_of_key_eq hw.1 hw'.1 (Prod.ext (hw.2.1.trans hw'.2.1.symm) hgauge)

/-- The weights on these gauges are all of the voter's weights. -/
theorem sum_weighted (b : WeightBook) (voter : Address) :
    ((b.weighted voter).map fun gauge => (b.weight voter gauge).toNat).sum =
      b.summedWeight voter := by
  rw [weighted, List.map_map, Table.sum_filter, summedWeight_eq_total]
  refine Table.total_congr fun w hw => ?_
  by_cases hvoter : w.voter = voter
  · subst hvoter
    by_cases hweight : w.weight = 0 <;> simp [weight_of_mem hw, hweight]
  · simp [hvoter]

/-- Of a list in which no gauge with weight is missing, these gauges are the ones that count. -/
theorem sum_share_eq (power : Nat) (hnodup : gauges.Nodup)
    (hall : ∀ gauge, b.weight voter gauge ≠ 0 → gauge ∈ gauges) :
    (gauges.map (b.share voter power)).sum =
      ((b.weighted voter).map (b.share voter power)).sum := by
  rw [← List.sum_toFinset _ hnodup, ← List.sum_toFinset _ (b.nodup_weighted voter)]
  refine (Finset.sum_subset (fun gauge hgauge => ?_) fun gauge _ hgauge => ?_).symm
  · rw [List.mem_toFinset, mem_weighted_iff] at hgauge
    exact List.mem_toFinset.mpr (hall gauge hgauge)
  · rw [List.mem_toFinset, mem_weighted_iff, not_not] at hgauge
    simp [share, hgauge]

theorem Balanced.sum_share_le (h : b.Balanced) (voter : Address) (power : Nat) :
    ((b.weighted voter).map (b.share voter power)).sum ≤ power :=
  Table.sum_div_le _ (fun gauge => (b.weight voter gauge).toNat) power _
    (Nat.le_of_eq ((b.sum_weighted voter).trans (h voter)))

/-- The parts of a power fall short of it by less than there are gauges with weight. -/
theorem Balanced.lt_sum_share_add (h : b.Balanced) (hpos : 0 < b.totalWeight voter)
    (power : Nat) :
    power < ((b.weighted voter).map (b.share voter power)).sum + (b.weighted voter).length := by
  have hsum := (b.sum_weighted voter).trans (h voter)
  have hlost := Table.le_sum_div_add _ (fun gauge => (b.weight voter gauge).toNat) power _
    (UInt64.lt_iff_toNat_lt.mp hpos) hsum
  have hsome : 0 < (b.weighted voter).length := by
    rw [List.length_pos_iff]
    intro hnil
    rw [hnil] at hsum
    exact absurd (UInt64.lt_iff_toNat_lt.mp hpos) (by simp [← hsum])
  change power ≤ ((b.weighted voter).map (b.share voter power)).sum + _ at hlost
  omega

end WeightBook

/-! ## Committing to one gauge -/

/-- What a call to commit adds to the power committed so far. -/
def CommitOutcome.Raises (old new : UInt64) : CommitOutcome → Prop
  | .committed power => Amount.add? old power = some new
  | .nothingToCommit => new = old

namespace Engine

variable {e : Engine} {voter gauge : Address} {rest gauges : List Address} {s : Snapshot}

/-- The voter can commit from a snapshot to gauges: it was taken under the present weights,
the voter has not committed to the gauges yet, and their power has room for the voter's. -/
structure CanCommit (e : Engine) (voter : Address) (s : Snapshot) (gauges : List Address) :
    Prop where
  snapshot : e.commitments.snapshot? voter e.currentEpoch = some s
  current : s.weightChangeSeqno = e.weights.seqno voter
  free : ∀ gauge ∈ gauges, e.commitments.vote? voter gauge e.currentEpoch = none
  room : ∀ gauge ∈ gauges, e.commitments.power gauge e.currentEpoch +
    e.weights.share voter s.votingPower.toNat gauge < 2 ^ 64

theorem CanCommit.tail (h : e.CanCommit voter s (gauge :: rest)) : e.CanCommit voter s rest where
  snapshot := h.snapshot
  current := h.current
  free other hother := h.free other (List.mem_cons_of_mem gauge hother)
  room other hother := h.room other (List.mem_cons_of_mem gauge hother)

/-- A new snapshot can be committed from. -/
theorem canCommit_fresh (h : e.PowerSound) {power : UInt64}
    (hnone : e.commitments.snapshot? voter e.currentEpoch = none)
    (hroom : ∀ gauge ∈ gauges, e.commitments.power gauge e.currentEpoch +
      e.weights.share voter power.toNat gauge < 2 ^ 64) {c : Commitments}
    (hc : c = e.commitments.putSnapshot
      (.fresh voter e.currentEpoch power (e.weights.seqno voter))) :
    CanCommit { e with commitments := c } voter
      (.fresh voter e.currentEpoch power (e.weights.seqno voter)) gauges := by
  subst hc
  refine ⟨(Commitments.snapshot?_insert rfl _ _).trans (if_pos ⟨rfl, rfl⟩), rfl,
    fun gauge _ => ?_, hroom⟩
  -- A vote would be on a snapshot.
  refine Option.eq_none_iff_forall_ne_some.mpr fun x hx => ?_
  obtain ⟨s, hs⟩ := h.consistent.snapshot?_of_vote (Table.mem_of_find? hx)
  obtain ⟨hvoter, -, hepoch⟩ := Commitments.key_of_vote? hx
  rw [hvoter, hepoch] at hs
  exact Option.some_ne_none s (hs.symm.trans hnone)

/-- A new record of a gauge has no power yet. -/
theorem CanCommit.recordCapture (h : e.CanCommit voter s gauges) (g : Gauge)
    (capture : FeeCapture) :
    (e.recordCapture g e.currentEpoch capture).CanCommit voter s gauges := by
  refine ⟨h.snapshot, h.current, h.free, fun gauge hgauge => ?_⟩
  have hroom := h.room gauge hgauge
  have hle : (e.recordCapture g e.currentEpoch capture).commitments.power gauge e.currentEpoch ≤
      e.commitments.power gauge e.currentEpoch := by
    rw [Commitments.power_insert (c := e.commitments) rfl]
    split
    · exact Nat.zero_le _
    · exact Nat.le_refl _
  exact Nat.lt_of_le_of_lt (Nat.add_le_add_right hle _) hroom

/-- A vote for one gauge leaves the voter free to go on with the others. -/
theorem CanCommit.addVote (h : e.CanCommit voter s (gauge :: rest)) (hnot : gauge ∉ rest)
    {r : EpochGauge} (hr : e.commitments.epochGauge? gauge e.currentEpoch = some r)
    (share gaugeTotal total : UInt64) {c : Commitments}
    (hc : c = e.commitments.addVote r s ⟨voter, gauge, e.currentEpoch, share⟩ gaugeTotal total) :
    CanCommit { e with commitments := c } voter { s with allocatedPower := total } rest := by
  subst hc
  obtain ⟨hvoter, hepoch⟩ := Commitments.key_of_snapshot? h.snapshot
  have hgauge := (Commitments.key_of_epochGauge? hr).1
  have hother {other : Address} (hrest : other ∈ rest) : gauge ≠ other := by
    rintro rfl
    exact hnot hrest
  refine ⟨?_, h.current, fun other hrest => ?_, fun other hrest => ?_⟩
  · exact (Commitments.snapshot?_insert rfl _ _).trans (if_pos ⟨hvoter, hepoch⟩)
  · refine Eq.trans ?_ (h.tail.free other hrest)
    exact (Commitments.vote?_insert rfl _ _ _).trans (if_neg fun hkey => hother hrest hkey.2.1)
  · have hpower : (e.commitments.addVote r s ⟨voter, gauge, e.currentEpoch, share⟩ gaugeTotal
        total).power other e.currentEpoch = e.commitments.power other e.currentEpoch :=
      (Commitments.power_insert rfl other e.currentEpoch).trans
        (if_neg fun hkey => hother hrest (hgauge.symm.trans hkey.1))
    have hroom := h.tail.room other hrest
    rw [← hpower] at hroom
    exact hroom

/-- The commitment to a gauge that is enabled and has a record. -/
theorem CanCommit.commit (h : e.CanCommit voter s (gauge :: rest)) (hsound : e.PowerSound)
    (hnot : gauge ∉ rest) {g : Gauge} (hgauge : e.registry.gauges.find? gauge = some g)
    (henabled : g.enabled = true) {r : EpochGauge}
    (hr : e.commitments.epochGauge? gauge e.currentEpoch = some r) :
    ∃ outcome c total, e.commit voter gauge = .ok (outcome, { e with commitments := c }) ∧
      outcome.Raises s.allocatedPower total ∧
      total.toNat = s.allocatedPower.toNat + e.weights.share voter s.votingPower.toNat gauge ∧
      CanCommit { e with commitments := c } voter { s with allocatedPower := total } rest := by
  have hfree := h.free gauge List.mem_cons_self
  have hroom := h.room gauge List.mem_cons_self
  have hwithin : s.allocatedPower.toNat + e.weights.share voter s.votingPower.toNat gauge ≤
      s.votingPower.toNat := hsound.allocated_add_share_le hfree h.snapshot h.current
  have hlt := s.votingPower.toNat_lt
  rw [Commitments.power_of_epochGauge? hr] at hroom
  obtain ⟨share, hshare⟩ : ∃ share : UInt64,
      share.toNat = e.weights.share voter s.votingPower.toNat gauge :=
    Amount.exists_toNat_eq (by omega)
  obtain rfl := Registry.target_of_find? hgauge
  by_cases hzero : share = 0
  · -- The weight is worth nothing, so nothing is written.
    have hnothing : e.weights.share voter s.votingPower.toNat g.target = 0 := by
      rw [← hshare, hzero]
      rfl
    refine ⟨.nothingToCommit, e.commitments, s.allocatedPower, ?_, rfl, by omega, h.tail⟩
    exact bind_eq_ok_iff.mpr ⟨g, Registry.get_eq_ok_iff.mpr hgauge, bind_eq_ok_iff.mpr
      ⟨_, Commitments.commit_eq_ok_nothing_iff.mpr ⟨hfree, henabled,
        ⟨s, h.snapshot, h.current, hnothing⟩, ⟨r, hr⟩, rfl⟩, rfl⟩⟩
  · obtain ⟨gaugeTotal, hgaugeTotal⟩ :=
      Amount.exists_toNat_eq (n := r.totalPower.toNat + share.toNat) (by omega)
    obtain ⟨total, htotal⟩ :=
      Amount.exists_toNat_eq (n := s.allocatedPower.toNat + share.toNat) (by omega)
    refine ⟨.committed share, _, total, ?_, Amount.add?_eq_some_iff.mpr htotal, by omega,
      h.addVote hnot hr share gaugeTotal total rfl⟩
    exact bind_eq_ok_iff.mpr ⟨g, Registry.get_eq_ok_iff.mpr hgauge, bind_eq_ok_iff.mpr
      ⟨_, Commitments.commit_eq_ok_committed_iff.mpr ⟨hfree, henabled, s, r, h.snapshot,
        h.current, hr, hshare, hzero, gaugeTotal, total, hgaugeTotal, htotal, rfl⟩, rfl⟩⟩

/-- Gauges for all of the voter's power in the current epoch: each is enabled, listed once and
has room for the voter's power, and no gauge on which the voter has weight is missing. -/
structure Ballot (e : Engine) (voter : Address) (power : UInt64) (gauges : List Address) :
    Prop where
  nodup : gauges.Nodup
  enabled : ∀ gauge ∈ gauges, e.registry.isEnabled gauge = true
  complete : ∀ gauge, e.weights.weight voter gauge ≠ 0 → gauge ∈ gauges
  room : ∀ gauge ∈ gauges, e.commitments.power gauge e.currentEpoch +
    e.weights.share voter power.toNat gauge < 2 ^ 64

instance (e : Engine) (voter : Address) (power : UInt64) (gauges : List Address) :
    Decidable (e.Ballot voter power gauges) :=
  decidable_of_iff
    (gauges.Nodup ∧ (∀ gauge ∈ gauges, e.registry.isEnabled gauge = true) ∧
      (∀ gauge ∈ e.weights.weighted voter, gauge ∈ gauges) ∧
      ∀ gauge ∈ gauges, e.commitments.power gauge e.currentEpoch +
        e.weights.share voter power.toNat gauge < 2 ^ 64)
    ⟨fun ⟨hnodup, henabled, hcomplete, hroom⟩ => ⟨hnodup, henabled,
      fun gauge hweight => hcomplete gauge (WeightBook.mem_weighted_iff.mpr hweight), hroom⟩,
    fun h => ⟨h.nodup, h.enabled,
      fun gauge hgauge => h.complete gauge (WeightBook.mem_weighted_iff.mp hgauge), h.room⟩⟩

end Engine

/-! ## Committing to all gauges -/

namespace Deployment

open Engine EpochVoting.Action

variable {S : Set Custody} {d d₁ d₂ : Deployment} {voter gauge : Address}
  {rest gauges : List Address} {s : Snapshot}

/-- Everything is in custody, and the gauges are enabled and registered with all that their
pools have counted accounted for.  So their records of the current epoch can be created. -/
structure Capturable (S : Set Custody) (d : Deployment) (gauges : List Address) : Prop where
  custody : InCustody S d
  tallied : ∀ gauge ∈ gauges, ∃ g base earned,
    d.engine.registry.gauges.find? gauge = some g ∧ g.enabled = true ∧
      d.Tally gauge base earned g

theorem Capturable.tail (h : d.Capturable S (gauge :: rest)) : d.Capturable S rest :=
  ⟨h.custody, fun other hother => h.tallied other (List.mem_cons_of_mem gauge hother)⟩

/-- The calls that voting an epoch makes keep gauges enabled and accounted for. -/
theorem Capturable.after (h : d.Capturable S gauges) (hS : Set.InjOn Custody.address S)
    {targets : List Address} {part : Operation}
    (hmade : (Operation.voteEpoch voter targets).Makes part) :
    (d.after part).Capturable S gauges := by
  have hguarded : (Operation.voteEpoch voter targets).Guarded S d :=
    ⟨List.forall_mem_nil _, List.forall_mem_nil _, fun hcreates => absurd rfl hcreates⟩
  have hpart := hmade.guarded hguarded d
  refine ⟨h.custody.after hS hmade.isPart.1 hpart, fun gauge hgauge => ?_⟩
  obtain ⟨g, base, earned, hfound, henabled, htally⟩ := h.tallied gauge hgauge
  obtain ⟨g', hfound', htally'⟩ := htally.after_basic hS h.custody hpart hmade.isPart.1
    (not_movesCounter hmade.movesPool) hfound
  refine ⟨g', base, _, hfound', ?_, htally'⟩
  have hsame : (d.after part).engine.registry.isEnabled gauge =
      d.engine.registry.isEnabled gauge := by
    rcases engine_after_cases (d := d) hmade.isPart.1 with hsame | ⟨reply, hstep⟩
    · rw [hsame]
    · rcases hstep.isEnabled_cases gauge with hsame | ⟨-, authority, enabled, rfl⟩
      · exact hsame
      · cases hmade with
        | commit hpart => cases hpart
  simpa [Registry.isEnabled, hfound, hfound', henabled] using hsame

theorem run_ensureCurrentEpochGauge (d : Deployment) (gauge : Address) :
    (ensureCurrentEpochGauge gauge).run d =
      (ensureEpochGauge gauge d.engine.currentEpoch).run d := by
  rw [ensureCurrentEpochGauge, run_get_bind]

/-- The record of a gauge is created, or was there before.  Either way the voter can still
commit to the same gauges. -/
theorem Capturable.ensures (h : d.Capturable S gauges) (hS : Set.InjOn Custody.address S)
    (hgauge : gauge ∈ gauges) (hcan : d.engine.CanCommit voter s gauges) :
    ∃ created d' r, (ensureCurrentEpochGauge gauge).run d = .ok created d' ∧
      d'.engine.commitments.epochGauge? gauge d'.engine.currentEpoch = some r ∧
      d'.engine.CanCommit voter s gauges ∧ d'.engine.weights = d.engine.weights := by
  obtain ⟨g, base, earned, hfound, henabled, htally⟩ := h.tallied gauge hgauge
  rw [run_ensureCurrentEpochGauge]
  cases hr : d.engine.commitments.epochGauge? gauge d.engine.currentEpoch with
  | some r =>
    exact ⟨false, d, r, run_ensureEpochGauge_of_record hfound henabled hr, hr, hcan, rfl⟩
  | none =>
    obtain ⟨capture, hcapture⟩ := htally.computes
    obtain ⟨tokens, hpaid⟩ := htally.settles hS h.custody hfound hcapture henabled hr
    refine ⟨true, _, .fresh gauge d.engine.currentEpoch capture.accrued,
      run_ensureEpochGauge_of_paid hfound henabled hr hcapture (htally.holds hcapture) hpaid, ?_,
      hcan.recordCapture g capture, rfl⟩
    obtain rfl := Registry.target_of_find? hfound
    exact (Commitments.epochGauge?_insert rfl _ _).trans (if_pos ⟨rfl, rfl⟩)

/-- The loop goes on with the power committed so far. -/
theorem run_commitAll_cons {created : Bool} {outcome : CommitOutcome} {old new : UInt64}
    (hensure : (ensureCurrentEpochGauge gauge).run d = .ok created d₁)
    (hcommit : (commit voter gauge).run d₁ = .ok outcome d₂) (hraises : outcome.Raises old new) :
    (commitAll voter old (gauge :: rest)).run d = (commitAll voter new rest).run d₂ := by
  rw [commitAll, EStateM.run_bind, hensure]
  change (commit voter gauge >>= _).run d₁ = _
  rw [EStateM.run_bind, hcommit]
  cases outcome with
  | nothingToCommit =>
    obtain rfl : new = old := hraises
    rfl
  | committed power =>
    have htotal : Amount.add? old power = some new := hraises
    simp only [htotal]
    rfl

/-- One round of the loop is not refused, and leaves everything ready for the next one. -/
theorem Capturable.round (h : d.Capturable S (gauge :: rest))
    (hS : Set.InjOn Custody.address S) (hnot : gauge ∉ rest)
    (hcan : d.engine.CanCommit voter s (gauge :: rest)) :
    ∃ total d', (commitAll voter s.allocatedPower (gauge :: rest)).run d =
        (commitAll voter total rest).run d' ∧
      total.toNat = s.allocatedPower.toNat +
        d.engine.weights.share voter s.votingPower.toNat gauge ∧
      d'.Capturable S rest ∧ d'.engine.CanCommit voter { s with allocatedPower := total } rest ∧
      d'.engine.weights = d.engine.weights := by
  obtain ⟨created, d₁, r, hensure, hr, hcan₁, hweights⟩ :=
    h.ensures hS List.mem_cons_self hcan
  have hafter₁ : d.after (.ensureEpochGauge gauge none) = d₁ :=
    (after_ensureEpochGauge d gauge).trans (leaves_of_ok hensure)
  have hmade₁ : (Operation.voteEpoch voter [gauge]).Makes (.ensureEpochGauge gauge none) :=
    .commit (.record List.mem_cons_self)
  have hmade₂ : (Operation.voteEpoch voter [gauge]).Makes (.commit voter gauge) :=
    .commit (.commit List.mem_cons_self)
  have h₁ : d₁.Capturable S (gauge :: rest) := hafter₁ ▸ h.after hS hmade₁
  obtain ⟨g, base, earned, hfound, henabled, htally⟩ := h₁.tallied gauge List.mem_cons_self
  obtain ⟨outcome, c, total, hcall, hraises, htotal, hcan₂⟩ :=
    hcan₁.commit h₁.custody.sound.power hnot hfound henabled hr
  have hcommit : (commit voter gauge).run d₁ = .ok outcome { d₁ with engine :=
      { d₁.engine with commitments := c } } := run_onEngine_eq_ok_iff.mpr ⟨_, hcall, rfl⟩
  have hafter₂ : d₁.after (.commit voter gauge) = _ :=
    (after_commit d₁ voter gauge).trans (leaves_of_ok hcommit)
  refine ⟨total, _, run_commitAll_cons hensure hcommit hraises, ?_, ?_, hcan₂, hweights⟩
  · rw [htotal, hweights]
  · exact hafter₂ ▸ (h₁.after hS hmade₂).tail

/-- The loop commits to all gauges.  The answer is the power that is then allocated on the
snapshot: what was there before, and the parts of all gauges. -/
theorem Capturable.rounds (h : d.Capturable S gauges) (hS : Set.InjOn Custody.address S)
    (hnodup : gauges.Nodup) (hcan : d.engine.CanCommit voter s gauges) :
    ∃ total d', (commitAll voter s.allocatedPower gauges).run d = .ok total d' ∧
      total.toNat = s.allocatedPower.toNat +
        (gauges.map (d.engine.weights.share voter s.votingPower.toNat)).sum ∧
      d'.engine.commitments.snapshot? voter d'.engine.currentEpoch =
        some { s with allocatedPower := total } := by
  induction gauges generalizing d s with
  | nil => exact ⟨s.allocatedPower, d, rfl, rfl, hcan.snapshot⟩
  | cons gauge rest ih =>
    obtain ⟨hnot, hrest⟩ := List.nodup_cons.mp hnodup
    obtain ⟨first, d₁, hround, hfirst, h₁, hcan₁, hweights⟩ := h.round hS hnot hcan
    obtain ⟨total, d', hrun, htotal, hs⟩ := ih h₁ hrest hcan₁
    refine ⟨total, d', hround.trans hrun, ?_, hs⟩
    rw [htotal, hweights, List.map_cons, List.sum_cons]
    change first.toNat + (rest.map (d.engine.weights.share voter s.votingPower.toNat)).sum = _
    omega

/-! ## Whole epochs -/

/-- The first snapshot of the epoch is taken at the present power and under the present
weights. -/
theorem run_takeSnapshot_of_none {power : UInt64} {c : Commitments}
    (hnone : d.engine.commitments.snapshot? voter d.engine.currentEpoch = none)
    (hpower : d.escrow.votingPower? voter d.now = some power)
    (hc : c = d.engine.commitments.putSnapshot
      (.fresh voter d.engine.currentEpoch power (d.engine.weights.seqno voter))) :
    (takeSnapshot voter).run d =
      .ok true { d with engine := { d.engine with commitments := c } } := by
  refine run_onEngine_eq_ok_iff.mpr ⟨{ d.engine with commitments := c }, ?_, rfl⟩
  unfold Engine.takeSnapshot
  rw [hnone, Option.isSome_none, if_neg Bool.false_ne_true]
  refine bind_eq_ok_iff.mpr ⟨power, demand_eq_ok_iff.mpr hpower, ?_⟩
  rw [Commitments.takeSnapshot_of_none hnone, hc]
  rfl

/-- The gauges of a ballot are committed to, each with its part of the voter's power. -/
theorem Capturable.voteEpoch (h : d.Capturable S gauges) (hS : Set.InjOn Custody.address S)
    {power : UInt64}
    (hnone : d.engine.commitments.snapshot? voter d.engine.currentEpoch = none)
    (hpower : d.escrow.votingPower? voter d.now = some power)
    (hballot : d.engine.Ballot voter power gauges) :
    ∃ total s, d.answer (.voteEpoch voter gauges) = .ok (.amount total) ∧
      total.toNat =
        ((d.engine.weights.weighted voter).map (d.engine.weights.share voter power.toNat)).sum ∧
      (d.after (.voteEpoch voter gauges)).engine.commitments.snapshot? voter
        d.engine.currentEpoch = some s ∧
      s.votingPower = power ∧ s.allocatedPower = total := by
  have htaken := run_takeSnapshot_of_none hnone hpower rfl
  have hafter := (after_takeSnapshot d voter).trans (leaves_of_ok htaken)
  have hmade : (Operation.voteEpoch voter gauges).Makes (.takeSnapshot voter) := .snapshot
  have hready := hafter ▸ h.after hS hmade
  have hcan := canCommit_fresh h.custody.sound.power hnone hballot.room rfl
  obtain ⟨total, d', hrun, htotal, hs⟩ := hready.rounds hS hballot.nodup hcan
  have hperformed : (perform (.voteEpoch voter gauges)).run d = .ok (.amount total) d' :=
    run_map_eq_ok_iff.mpr ⟨total, run_bind_eq_ok_iff.mpr ⟨true, _, htaken, hrun⟩, rfl⟩
  have hlast : d.after (.voteEpoch voter gauges) = d' := by
    rw [after_eq_leaves, leaves_of_ok hperformed]
  have hfactory : d'.engine.factory = d.engine.factory :=
    hlast ▸ frame d (.voteEpoch voter gauges) .factory (by simp [Operation.writes])
  have hnow : d'.engine.currentEpoch = d.engine.currentEpoch :=
    congrArg Factory.currentEpoch hfactory
  rw [hnow] at hs
  refine ⟨total, _, answer_of_run hperformed, ?_, hlast.symm ▸ hs, rfl, rfl⟩
  rw [← WeightBook.sum_share_eq power.toNat hballot.nodup hballot.complete, htotal]
  exact Nat.zero_add _

/-- After a segregated run in which the counters of the pools move only by what the gauges earn,
enabled gauges can be captured. -/
theorem capturable_along_run {foreman : Address} {params : FactoryParams} {maxLockSecs : UInt64}
    {run : List Operation} (hcreate : create foreman params maxLockSecs = .ok d)
    (hrun : Segregated run) (honly : ∀ gauge ∈ gauges, ¬ d.Occurs (MovesCounter gauge) run)
    (henabled : ∀ gauge ∈ gauges, (d.afterAll run).engine.registry.isEnabled gauge = true) :
    (d.afterAll run).Capturable {c | c ∈ Operation.custodies run} gauges := by
  refine ⟨hrun.inCustody (List.prefix_refl run) hcreate, fun gauge hgauge => ?_⟩
  obtain ⟨g, hfound, hon⟩ := Registry.isEnabled_eq_true_iff.mp (henabled gauge hgauge)
  obtain ⟨_, _, _, -, -, -, htally⟩ :=
    tally_along_run hcreate hrun (List.prefix_refl run) (honly gauge hgauge) hfound
  exact ⟨g, _, _, hfound, hon, htally⟩

/-- After every segregated run in which the pools' counters of the listed gauges move only by
what these earn, a voter who has weights and no snapshot of the current epoch yet can vote the
whole epoch.  The power that is allocated is the same for every ballot; it falls short of the
voter's power by less than there are gauges with weight. -/
theorem whole_epoch_committed {foreman : Address} {params : FactoryParams} {maxLockSecs : UInt64}
    {run : List Operation} (hcreate : create foreman params maxLockSecs = .ok d)
    (hrun : Segregated run) {power : UInt64}
    (hpower : (d.afterAll run).escrow.votingPower? voter (d.afterAll run).now = some power)
    (hnone : (d.afterAll run).engine.commitments.snapshot? voter
      (d.afterAll run).engine.currentEpoch = none)
    (hweights : 0 < (d.afterAll run).engine.weights.totalWeight voter) :
    ∃ allocated : UInt64,
      power.toNat <
        allocated.toNat + ((d.afterAll run).engine.weights.weighted voter).length ∧
      allocated ≤ power ∧
      ∀ gauges, (d.afterAll run).engine.Ballot voter power gauges →
        (∀ gauge ∈ gauges, ¬ d.Occurs (MovesCounter gauge) run) →
        (d.afterAll run).answer (.voteEpoch voter gauges) = .ok (.amount allocated) ∧
        ∃ s, ((d.afterAll run).after (.voteEpoch voter gauges)).engine.commitments.snapshot?
            voter (d.afterAll run).engine.currentEpoch = some s ∧
          s.votingPower = power ∧ s.allocatedPower = allocated := by
  have hbalanced := (sound_afterAll hcreate run).power.balanced
  have hle := hbalanced.sum_share_le voter power.toNat
  have hlost := hbalanced.lt_sum_share_add hweights power.toNat
  obtain ⟨allocated, hallocated⟩ := Amount.exists_toNat_eq (Nat.lt_of_le_of_lt hle power.toNat_lt)
  rw [← hallocated] at hle hlost
  refine ⟨allocated, hlost, UInt64.le_iff_toNat_le.mpr hle, fun gauges hballot honly => ?_⟩
  obtain ⟨total, s, hanswer, htotal, hs, hvoting, hsum⟩ :=
    (capturable_along_run hcreate hrun honly hballot.enabled).voteEpoch hrun.injOn hnone hpower
      hballot
  obtain rfl : total = allocated := UInt64.toNat_inj.mp (htotal.trans hallocated.symm)
  exact ⟨hanswer, s, hs, hvoting, hsum⟩

end Deployment

namespace Sample

open Deployment

/-- Two gauges, and a voter with a power of 100 of whose weight one gauge has a third and the
other the rest.  The first gauge has earned fees that are not captured yet. -/
def thirds : List Operation :=
  [.addGauge (account 1) ⟨account 2, account 3⟩, .addGauge (account 5) ⟨account 2, account 3⟩,
    .lock (account 4) 100 none, .setVote none (account 4) (account 1) 1,
    .setVote none (account 4) (account 5) 2, .accrueFees (account 1) .a 30]

/-- In whatever order the two gauges come, no more than one unit of the power is lost. -/
theorem whole_epoch_committed_in_thirds : ∃ allocated : UInt64,
    100 < allocated.toNat + 2 ∧ allocated ≤ 100 ∧
    ∀ gauges ∈ [[account 1, account 5], [account 5, account 1]],
      (deployment.afterAll thirds).answer (.voteEpoch (account 4) gauges) =
        .ok (.amount allocated) ∧
      ∃ s, ((deployment.afterAll thirds).after
          (.voteEpoch (account 4) gauges)).engine.commitments.snapshot? (account 4)
            (deployment.afterAll thirds).engine.currentEpoch = some s ∧
        s.votingPower = 100 ∧ s.allocatedPower = allocated := by
  have hstate : Segregated thirds ∧
      (deployment.afterAll thirds).escrow.votingPower? (account 4)
        (deployment.afterAll thirds).now = some 100 ∧
      (deployment.afterAll thirds).engine.commitments.snapshot? (account 4)
        (deployment.afterAll thirds).engine.currentEpoch = none ∧
      0 < (deployment.afterAll thirds).engine.weights.totalWeight (account 4) ∧
      ((deployment.afterAll thirds).engine.weights.weighted (account 4)).length = 2 ∧
      ∀ gauges ∈ [[account 1, account 5], [account 5, account 1]],
        (deployment.afterAll thirds).engine.Ballot (account 4) 100 gauges := by
    decide +kernel
  obtain ⟨hsegregated, hpower, hnone, hweights, hlength, hballots⟩ := hstate
  have honly : ∀ operation ∈ thirds, operation.movesPool = true →
      ∃ earner side amount, operation = .accrueFees earner side amount := by
    have hearns : ∀ operation ∈ thirds, operation.movesPool = true →
        operation = .accrueFees (account 1) .a 30 := by
      decide +kernel
    exact fun operation hoperation hmoves => ⟨_, _, _, hearns operation hoperation hmoves⟩
  obtain ⟨allocated, hlost, hle, hvotes⟩ :=
    whole_epoch_committed create_deployment hsegregated hpower hnone hweights
  rw [hlength] at hlost
  exact ⟨allocated, hlost, hle, fun gauges hgauges => hvotes gauges (hballots gauges hgauges)
    fun gauge _ => not_occurs_movesCounter honly deployment⟩

end Sample
end EpochVoting
