import EpochVoting.Proofs.Swept
import EpochVoting.Proofs.Run

/-!
# Calls on swept records

A call of the engine that only looks at records of the current epoch, at allocations or at
the power of a gauge does not notice whether elapsed votes were closed and unvoted records
cleaned.  It has the same answer or the same error on both engines, and it leaves engines of
which one is again the other one, swept (`Engine.Swept`).
-/

namespace EpochVoting

variable {K : Address → Epoch → Prop}

/-! ## Calls on the registry and the commitments -/

theorem Snapshot.SameButClosed.markFeeClaimed {s s' : Snapshot} (h : s.SameButClosed s')
    (gauge : Address) (side : FeeSide) :
    (s.markFeeClaimed gauge side).SameButClosed (s'.markFeeClaimed gauge side) := by
  obtain ⟨closedPower, closedAllocations, rfl⟩ := h
  exact ⟨closedPower, closedAllocations, rfl⟩

/-- The payout of a claim does not depend on what sweeping changes. -/
theorem FeeClaim.compute_eq {g g' : Gauge} {r r' : EpochGauge} {s s' : Snapshot}
    (hg : g.SameButPruned g') (hr : r.SameButClosed r') (hs : s.SameButClosed s')
    (allocation : Option UInt64) (side : FeeSide) :
    FeeClaim.compute g' r' s' allocation side = FeeClaim.compute g r s allocation side := by
  obtain ⟨p, rfl⟩ := hg
  obtain ⟨_, rfl⟩ := hr
  obtain ⟨_, _, rfl⟩ := hs
  unfold FeeClaim.compute
  rw [Gauge.fee_setPruned]
  rfl

namespace Registry

variable {r r' : Registry}

theorem SameButPruned.setEnabled (h : r.SameButPruned r') (target : Address) (enabled : Bool) :
    Agree (fun p p' => p.1 = p'.1 ∧ p.2.SameButPruned p'.2) (r.setEnabled target enabled)
      (r'.setEnabled target enabled) := by
  refine (h.get target).bind fun g g' hg => .ok ⟨?_, h.put (hg.setEnabled enabled)⟩
  obtain ⟨p, rfl⟩ := hg
  rfl

end Registry

namespace Commitments

variable {c c' : Commitments} {now : Epoch} {voter gauge : Address} {power seqno : UInt64}

theorem Swept.resetSnapshot (h : Swept K now c c') (voter : Address) (power seqno : UInt64) :
    Agree (Swept K now) (c.resetSnapshot voter now power seqno)
      (c'.resetSnapshot voter now power seqno) := by
  unfold Commitments.resetSnapshot Commitments.snapshot
  rw [h.current.snapshot?_eq]
  refine agree_check_bind _ fun s hs => agree_check_bind _ fun _ _ => .ok (h.putSnapshot ?_)
  exact (key_of_snapshot? (snapshot_eq_ok_iff.mp hs)).2

/-- Pruned fees do not matter either. -/
theorem Swept.commit (h : Swept K now c c') {g g' : Gauge} (hg : g.SameButPruned g')
    (voter : Address) (weight : UInt32) (total seqno : UInt64) :
    Agree (fun p p' => p.1 = p'.1 ∧ Swept K now p.2 p'.2)
      (c.commit voter g now weight total seqno) (c'.commit voter g' now weight total seqno) := by
  obtain ⟨p, rfl⟩ := hg
  have hnow := h.current
  unfold Commitments.commit Commitments.snapshot Commitments.epochGauge
  rw [show (g.setPruned p).target = g.target from rfl, hnow.vote?_eq, hnow.snapshot?_eq,
    hnow.epochGauge?_eq]
  refine agree_check_bind _ fun _ _ => agree_check_bind _ fun _ _ => agree_check_bind _ fun s hs =>
    agree_check_bind _ fun _ _ => agree_check_bind _ fun r hr => agree_check_bind _ fun a _ => ?_
  split
  · exact .ok ⟨rfl, h⟩
  · refine agree_check_bind _ fun gaugeTotal _ => agree_check_bind _ fun voterTotal _ => ?_
    exact .ok ⟨rfl, h.addVote (key_of_epochGauge? (epochGauge_eq_ok_iff.mp hr)).2
      (key_of_snapshot? (snapshot_eq_ok_iff.mp hs)).2 rfl⟩

theorem Swept.revert (h : Swept K now c c') (voter gauge : Address) :
    Agree (fun p p' => p.1 = p'.1 ∧ Swept K now p.2 p'.2) (c.revert voter gauge now)
      (c'.revert voter gauge now) := by
  have hnow := h.current
  unfold Commitments.revert Commitments.snapshot Commitments.epochGauge
  rw [hnow.vote?_eq, hnow.snapshot?_eq, hnow.epochGauge?_eq]
  refine agree_check_bind _ fun x hx => agree_check_bind _ fun r hr =>
    agree_check_bind _ fun s hs => agree_check_bind _ fun gaugeTotal _ =>
    agree_check_bind _ fun voterTotal _ => .ok ⟨rfl, ?_⟩
  obtain ⟨rfl, rfl, hepoch⟩ := key_of_vote? (demand_eq_ok_iff.mp hx)
  have hswept : Swept K now (c.removeVote r s x gaugeTotal voterTotal)
      (c'.removeVote r s x gaugeTotal voterTotal) :=
    h.removeVote (key_of_epochGauge? (epochGauge_eq_ok_iff.mp hr)).2
      (key_of_snapshot? (snapshot_eq_ok_iff.mp hs)).2 hepoch
  unfold Commitments.removeVote at hswept
  rw [hepoch] at hswept
  exact hswept

theorem Swept.createEpochGauge (h : Swept K now c c') (gauge : Address) (fees : PerSide UInt64) :
    Swept K now (c.createEpochGauge gauge now fees).2 (c'.createEpochGauge gauge now fees).2 := by
  unfold Commitments.createEpochGauge
  rw [h.current.epochGauge?_eq]
  split
  · exact h
  · exact h.putEpochGauge rfl

/-- A snapshot of an elapsed epoch is replaced in both, but its closed allocations stay. -/
theorem Swept.replaceSnapshot {s s' t t' : Snapshot} (h : Swept K now c c')
    (helapsed : t.epoch < now) (hs : c.snapshot? t.voter t.epoch = some s)
    (hs' : c'.snapshot? t.voter t.epoch = some s') (hsame : t.SameButClosed t')
    (hclosed : t.closedAllocations = s.closedAllocations)
    (hclosed' : t'.closedAllocations = s'.closedAllocations) :
    Swept K now (c.putSnapshot t) (c'.putSnapshot t') := by
  have hkey : t'.voter = t.voter ∧ t'.epoch = t.epoch := by
    obtain ⟨closedPower, closedAllocations, rfl⟩ := hsame
    exact ⟨rfl, rfl⟩
  constructor
  case live =>
    intro epoch hlive
    have hkept (c : Commitments) {t : Snapshot} (ht : t.epoch < now) :
        SameAt epoch c (c.putSnapshot t) :=
      ⟨.refl _ _, Table.sameOn_insert fun heq => hlive (heq ▸ ht), .refl _ _⟩
    rw [← hkey.2] at helapsed
    exact (hkept c (hkey.2 ▸ helapsed)).symm.trans ((h.live epoch hlive).trans (hkept c' helapsed))
  case gauges => exact h.gauges
  case snapshots =>
    intro voter epoch
    have hput (c : Commitments) (t : Snapshot) : (c.putSnapshot t).snapshot? voter epoch =
        if t.voter = voter ∧ t.epoch = epoch then some t else c.snapshot? voter epoch :=
      snapshot?_insert rfl voter epoch
    rw [hput, hput, hkey.1, hkey.2]
    split
    · exact .some hsame
    · exact h.snapshots voter epoch
  case allocation =>
    intro voter gauge epoch
    rw [← hkey.1, ← hkey.2] at hs'
    rw [allocation?_putSnapshot hs hclosed, allocation?_putSnapshot hs' hclosed']
    exact h.allocation voter gauge epoch

end Commitments

/-! ## Calls on the engine -/

namespace Engine

variable {e e' : Engine} {voter gauge : Address}

/-- The records of `e` are those of the other engine, swept. -/
inductive Swept (K : Address → Epoch → Prop) (e : Engine) : Engine → Prop
  | of {registry commitments} (registered : e.registry.SameButPruned registry)
      (committed : Commitments.Swept K e.currentEpoch e.commitments commitments) :
      Swept K e { e with registry, commitments }

/-- The same answer, and engines of which one is the other one, swept. -/
def AnswersSwept {α : Type} (K : Address → Epoch → Prop) (p p' : α × Engine) : Prop :=
  p.1 = p'.1 ∧ p.2.Swept K p'.2

namespace Swept

theorem mono {K' : Address → Epoch → Prop} (h : e.Swept K e')
    (hK : ∀ gauge epoch, K gauge epoch → K' gauge epoch) : e.Swept K' e' := by
  obtain ⟨hr, hc⟩ := h
  exact .of hr (hc.mono hK)

theorem totalPower_eq (h : e.Swept K e') (gauge : Address) (epoch : Epoch) :
    e'.totalPower gauge epoch = e.totalPower gauge epoch := by
  obtain ⟨-, hc⟩ := h
  exact hc.totalPower_eq gauge epoch

theorem rewardShare_eq (h : e.Swept K e') (gauge : Address) :
    e'.rewardShare gauge = e.rewardShare gauge := by
  have hpower := h.totalPower_eq gauge
  obtain ⟨-, -⟩ := h
  unfold rewardShare
  cases e.factory.previousEpoch? with
  | none => rfl
  | some epoch => exact hpower epoch

theorem advanceEpoch (h : e.Swept K e') (now : Timestamp) :
    Agree (AnswersSwept K) (e.advanceEpoch now) (e'.advanceEpoch now) := by
  obtain ⟨hr, hc⟩ := h
  refine agree_check_bind _ fun factory hadvance => .ok ⟨rfl, .of hr (hc.advance ?_)⟩
  obtain ⟨-, next, due, hnext, -, rfl⟩ := Factory.advance_eq_ok_iff.mp hadvance
  rw [UInt32.le_iff_toNat_le]
  exact Nat.le_of_lt (Nat.lt_of_succ_le (Nat.le_of_eq hnext.symm))

theorem setForeman (h : e.Swept K e') (authority newForeman : Address) :
    Agree (Swept K) (e.setForeman authority newForeman) (e'.setForeman authority newForeman) := by
  obtain ⟨hr, hc⟩ := h
  refine agree_check_bind _ fun factory hset => ?_
  obtain ⟨-, rfl⟩ := Factory.setForeman_eq_ok_iff.mp hset
  exact .ok (.of hr hc)

theorem setEpochDuration (h : e.Swept K e') (authority : Address) (secs : UInt64) :
    Agree (Swept K) (e.setEpochDuration authority secs) (e'.setEpochDuration authority secs) := by
  obtain ⟨hr, hc⟩ := h
  refine agree_check_bind _ fun factory hset => ?_
  obtain ⟨-, -, rfl⟩ := Factory.setEpochDuration_eq_ok_iff.mp hset
  exact .ok (.of hr hc)

theorem createGauge (h : e.Swept K e') (target : Address) (mints : PerSide Address)
    (totals : PerSide UInt64) :
    Agree (Swept K) (e.createGauge target mints totals) (e'.createGauge target mints totals) := by
  obtain ⟨hr, hc⟩ := h
  unfold Engine.createGauge Registry.create
  rw [hr.contains_eq target]
  simp only [bind_assoc, pure_bind]
  exact agree_check_bind _ fun _ _ => .ok (.of (hr.put (.refl _)) hc)

theorem setGaugeEnabled (h : e.Swept K e') (authority target : Address) (enabled : Bool) :
    Agree (AnswersSwept K) (e.setGaugeEnabled authority target enabled)
      (e'.setGaugeEnabled authority target enabled) := by
  obtain ⟨hr, hc⟩ := h
  refine agree_check_bind _ fun _ _ => (hr.setEnabled target enabled).bind ?_
  exact fun _ _ hset => .ok ⟨hset.1, .of hset.2 hc⟩

theorem setVote (h : e.Swept K e') (escrow : Escrow) (authority voter gauge : Address)
    (weight : UInt32) :
    Agree (AnswersSwept K) (e.setVote escrow authority voter gauge weight)
      (e'.setVote escrow authority voter gauge weight) := by
  obtain ⟨hr, hc⟩ := h
  refine agree_check_bind _ fun _ _ => agree_check_bind _ fun _ _ =>
    (hr.get gauge).bind fun g g' hg => ?_
  obtain ⟨p, rfl⟩ := hg
  exact agree_check_bind (e.weights.setVote voter g weight) fun _ _ => .ok ⟨rfl, .of hr hc⟩

theorem takeSnapshot (h : e.Swept K e') (escrow : Escrow) (now : Timestamp) (voter : Address) :
    Agree (AnswersSwept K) (e.takeSnapshot escrow now voter)
      (e'.takeSnapshot escrow now voter) := by
  obtain @⟨registry, commitments, hr, hc⟩ := h
  have hsame := hc.current.snapshot?_eq voter
  unfold Engine.takeSnapshot
  show Agree _ _ (if (commitments.snapshot? voter e.currentEpoch).isSome then _ else _)
  rw [hsame]
  split
  · exact .ok ⟨rfl, .of hr hc⟩
  · next hnone =>
    rw [Bool.not_eq_true, Option.isSome_eq_false_iff, Option.isNone_iff_eq_none] at hnone
    refine agree_check_bind _ fun power _ => ?_
    rw [Commitments.takeSnapshot_of_none hnone]
    show Agree _ _ (.ok (true, { e with
      registry, commitments := (commitments.takeSnapshot voter e.currentEpoch power _).2 }))
    rw [Commitments.takeSnapshot_of_none (hsame.trans hnone)]
    exact .ok ⟨rfl, .of hr (hc.putSnapshot rfl)⟩

theorem resetSnapshot (h : e.Swept K e') (escrow : Escrow) (now : Timestamp) (voter : Address) :
    Agree (Swept K) (e.resetSnapshot escrow now voter) (e'.resetSnapshot escrow now voter) := by
  obtain ⟨hr, hc⟩ := h
  exact agree_check_bind _ fun power _ => (hc.resetSnapshot voter power _).bind
    fun _ _ hc' => .ok (.of hr hc')

theorem commit (h : e.Swept K e') (voter gauge : Address) :
    Agree (AnswersSwept K) (e.commit voter gauge) (e'.commit voter gauge) := by
  obtain ⟨hr, hc⟩ := h
  exact (hr.get gauge).bind fun g g' hg => (hc.commit hg voter _ _ _).bind
    fun _ _ hc' => .ok ⟨hc'.1, .of hr hc'.2⟩

theorem revert (h : e.Swept K e') (escrow : Escrow) (authority voter gauge : Address)
    (epoch : Epoch) :
    Agree (AnswersSwept K) (e.revert escrow authority voter gauge epoch)
      (e'.revert escrow authority voter gauge epoch) := by
  obtain ⟨hr, hc⟩ := h
  refine agree_check_bind _ fun _ _ => agree_check_bind _ fun _ hlive => ?_
  obtain rfl : epoch = e.currentEpoch := Factory.requireLive_eq_ok_iff.mp hlive
  exact (hc.revert voter gauge).bind fun _ _ hc' => .ok ⟨hc'.1, .of hr hc'.2⟩

theorem recordFeeClaim (h : e.Swept K e') {g g' : Gauge} {s s' : Snapshot}
    (hg : g.SameButPruned g') (helapsed : s.epoch < e.currentEpoch)
    (hs : e.commitments.snapshot? s.voter s.epoch = some s)
    (hs' : e'.commitments.snapshot? s.voter s.epoch = some s') (hsame : s.SameButClosed s')
    (claim : FeeClaim) : (e.recordFeeClaim g s claim).Swept K (e'.recordFeeClaim g' s' claim) := by
  obtain ⟨hr, hc⟩ := h
  have htarget : g'.target = g.target := by
    obtain ⟨p, rfl⟩ := hg
    rfl
  unfold Engine.recordFeeClaim FeeClaim.applyToSnapshot
  rw [htarget]
  exact .of (hr.put (hg.claim claim)) (hc.replaceSnapshot helapsed hs hs'
    (hsame.markFeeClaimed g.target claim.side) rfl rfl)

end Swept
end Engine
end EpochVoting
