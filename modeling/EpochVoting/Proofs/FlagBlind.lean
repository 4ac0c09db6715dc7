import EpochVoting.Proofs.Commuting
import EpochVoting.Proofs.GarbageCollection

/-!
# Calls that do not look at the flag

Whether a gauge is enabled matters to those who want to add to it.  Taking back and closing
votes, cleaning records, claiming fees, everything about bribes, and lowering weights do not
look at it: on a deployment in which a gauge is enabled besides (`Deployment.enabling`) these
calls give the same answers and make the same changes (`flag_blind`).
-/

namespace EpochVoting

open EpochVoting.Action

/-! ## The same with a gauge enabled -/

namespace Gauge

/-- The gauge, enabled if it is the one with the target. -/
def enabling (g : Gauge) (target : Address) : Gauge :=
  if g.target = target then { g with enabled := true } else g

variable (g : Gauge) (target : Address)

@[simp] theorem enabling_target : (g.enabling target).target = g.target := by
  unfold enabling
  split <;> rfl

@[simp] theorem fee_enabling (side : FeeSide) : (g.enabling target).fee side = g.fee side := by
  unfold enabling
  split <;> rfl

@[simp] theorem feeVault_enabling (side : FeeSide) :
    (g.enabling target).feeVault side = g.feeVault side := by
  unfold feeVault
  rw [enabling_target]

theorem prunedTotals_enabling (r : EpochGauge) :
    (g.enabling target).prunedTotals r = g.prunedTotals r := by
  unfold prunedTotals
  simp only [fee_enabling]

end Gauge

theorem FeeClaim.compute_enabling (g : Gauge) (target : Address) (r : EpochGauge) (s : Snapshot)
    (allocation : Option UInt64) (side : FeeSide) :
    FeeClaim.compute (g.enabling target) r s allocation side =
      FeeClaim.compute g r s allocation side := by
  unfold FeeClaim.compute
  simp only [Gauge.enabling_target, Gauge.fee_enabling]

/-- A weight that does not rise may be set whether or not the gauge is enabled. -/
theorem WeightBook.setVote_enabling (b : WeightBook) (voter : Address) (g : Gauge)
    (target : Address) {weight : UInt32} (hlower : weight ≤ b.weight voter g.target) :
    b.setVote voter (g.enabling target) weight = b.setVote voter g weight := by
  unfold WeightBook.setVote
  dsimp only
  rw [Gauge.enabling_target, decide_eq_true hlower, Bool.or_true, Bool.or_true]

namespace Registry

variable {r : Registry} {target name : Address}

/-- The registry with a gauge enabled. -/
def enabling (r : Registry) (target : Address) : Registry :=
  ⟨r.gauges.modify target fun g => { g with enabled := true }⟩

theorem find?_enabling (r : Registry) (target name : Address) :
    (r.enabling target).gauges.find? name =
      (r.gauges.find? name).map fun g => g.enabling target := by
  refine (Table.find?_modify (f := fun g : Gauge => { g with enabled := true }) (fun _ => rfl)
    r.gauges target name).trans ?_
  cases hgauge : r.gauges.find? name with
  | none => split <;> rfl
  | some g =>
    have htarget := target_of_find? hgauge
    rw [Option.map_some, Option.map_some, Gauge.enabling, htarget]
    split
    · next heq => rw [if_pos heq.symm]
    · next hne => rw [if_neg fun heq => hne heq.symm]

theorem get_enabling (r : Registry) (target name : Address) :
    Agree (fun g g' => g' = g.enabling target ∧ r.gauges.find? name = some g)
      (r.get name) ((r.enabling target).get name) :=
  agree_demand_of_map (find?_enabling r target name) _

/-- A change of a gauge that leaves the flag alone can be made before or after enabling. -/
theorem put_enabling {change : Gauge → Gauge} (htarget : ∀ g, (change g).target = g.target)
    (hflag : ∀ (g : Gauge) (enabled : Bool),
      change { g with enabled } = { change g with enabled }) (g : Gauge) :
    (r.enabling target).put (change (g.enabling target)) =
      (r.put (change g)).enabling target := by
  refine congrArg Registry.mk (Table.ext fun name => ?_)
  have hafter := find?_enabling (r.put (change g)) target name
  have hbefore := find?_put (r.enabling target) (change (g.enabling target)) name
  have hchanged : change (g.enabling target) = (change g).enabling target := by
    unfold Gauge.enabling
    by_cases hname : g.target = target
    · rw [if_pos hname, if_pos ((htarget g).trans hname)]
      exact hflag g true
    · rw [if_neg hname, if_neg fun heq => hname ((htarget g).symm.trans heq)]
  refine hbefore.trans (Eq.trans ?_ hafter.symm)
  rw [hchanged, Gauge.enabling_target, find?_put, find?_enabling]
  split <;> rfl

theorem update_enabling (change : Gauge → Gauge) (htarget : ∀ g, (change g).target = g.target)
    (hflag : ∀ (g : Gauge) (enabled : Bool),
      change { g with enabled } = { change g with enabled }) (r : Registry)
    (target name : Address) :
    Agree (fun r r' => r' = r.enabling target) (r.update name change)
      ((r.enabling target).update name change) := by
  refine (r.get_enabling target name).bind fun g g' hg => .ok ?_
  rw [hg.1]
  exact put_enabling htarget hflag g

end Registry

/-- The engine with a gauge enabled. -/
def Engine.enabling (e : Engine) (target : Address) : Engine :=
  { e with registry := e.registry.enabling target }

/-- The second engine is the first one with a gauge enabled. -/
def Engine.Enabling (target : Address) (e e' : Engine) : Prop :=
  e' = e.enabling target

namespace Deployment

variable {d : Deployment} {target : Address}

/-- The deployment with a gauge enabled, and the same in everything else. -/
def enabling (d : Deployment) (target : Address) : Deployment :=
  { d with engine := d.engine.enabling target }

theorem beside_enabling (d : Deployment) (target : Address) :
    d.Beside (Engine.Enabling target) (d.enabling target) :=
  .of rfl

theorem eq_enabling {d' : Deployment} (h : d.Beside (Engine.Enabling target) d') :
    d' = d.enabling target := by
  obtain ⟨he⟩ := h
  rw [he]
  rfl

/-! ## The calls -/

theorem revert_enabling (d : Deployment) (target : Address) (authority : Option Address)
    (voter gauge : Address) (epoch : Option Epoch) :
    Alike (Beside (Engine.Enabling target)) (revert authority voter gauge epoch)
      (revert authority voter gauge epoch) d (d.enabling target) :=
  (beside_enabling d target).onEngine (agree_check_bind _ fun _ _ => agree_check_bind _ fun _ _ =>
    agree_check_bind (d.engine.commitments.revert voter gauge _) fun _ _ => .ok ⟨rfl, rfl⟩)

theorem close_enabling (d : Deployment) (target : Address) (authority : Option Address)
    (voter gauge : Address) (epoch : Epoch) :
    Alike (Beside (Engine.Enabling target)) (close authority voter gauge epoch)
      (close authority voter gauge epoch) d (d.enabling target) :=
  (beside_enabling d target).onEngine (agree_check_bind _ fun _ _ => agree_check_bind _ fun _ _ =>
    agree_check_bind (d.engine.commitments.close voter gauge epoch) fun _ _ => .ok ⟨rfl, rfl⟩)

theorem setVote_enabling (d : Deployment) (target : Address) (authority : Option Address)
    {voter gauge : Address} {weight : UInt32}
    (hlower : weight ≤ d.engine.weights.weight voter gauge) :
    Alike (Beside (Engine.Enabling target)) (setVote authority voter gauge weight)
      (setVote authority voter gauge weight) d (d.enabling target) := by
  refine (beside_enabling d target).onEngine (agree_check_bind _ fun _ _ =>
    agree_check_bind _ fun _ _ => (d.engine.registry.get_enabling target gauge).bind
    fun g g' hg => ?_)
  obtain ⟨rfl, hgauge⟩ := hg
  obtain rfl := Registry.target_of_find? hgauge
  show Agree _ _ (d.engine.weights.setVote voter (g.enabling target) weight >>= _)
  rw [WeightBook.setVote_enabling _ _ _ _ hlower]
  exact agree_check_bind _ fun _ _ => .ok ⟨rfl, rfl⟩

theorem cleanEpochGauge_enabling (d : Deployment) (target gauge : Address) (epoch : Epoch) :
    Alike (Beside (Engine.Enabling target)) (cleanEpochGauge gauge epoch)
      (cleanEpochGauge gauge epoch) d (d.enabling target) := by
  have hboth := beside_enabling d target
  refine alike_get_bind (alike_check_bind _ hboth fun _ _ => alike_check_bind
    (d.engine.commitments.epochGauge gauge epoch) hboth fun record _ =>
    alike_check_bind _ hboth fun _ _ => alike_lift_bind
    (d.engine.registry.get_enabling target gauge) hboth fun g g' hg _ _ => ?_)
  obtain ⟨rfl, -⟩ := hg
  rw [Gauge.prunedTotals_enabling]
  refine alike_check_bind _ hboth fun pruned _ => (hboth.changeEngine ?_).bind
    fun _ d₁ d₁' _ _ h₁ => h₁.changeEngine ?_
  · exact agree_check_bind (d.engine.commitments.removeEmptyEpochGauge gauge epoch)
      fun _ _ => .ok rfl
  · obtain rfl := eq_enabling h₁
    refine (Registry.update_enabling (fun g => g.setPruned pruned) (fun _ => rfl) (fun _ _ => rfl)
      d₁.engine.registry target gauge).bind fun r r' hr => .ok ?_
    rw [hr]
    rfl

theorem claimFee_enabling (d : Deployment) (target authority voter gauge : Address)
    (epoch : Epoch) (side : FeeSide) :
    Alike (Beside (Engine.Enabling target)) (claimFee authority voter gauge epoch side)
      (claimFee authority voter gauge epoch side) d (d.enabling target) := by
  have hboth := beside_enabling d target
  refine alike_get_bind (alike_check_bind _ hboth fun lock _ => alike_check_bind _ hboth
    fun _ _ => alike_lift_bind (d.engine.registry.get_enabling target gauge) hboth
    fun g g' hg _ _ => alike_check_bind (d.engine.commitments.epochGauge gauge epoch) hboth
    fun record _ => alike_check_bind (d.engine.commitments.snapshot voter epoch) hboth
    fun snapshot _ => ?_)
  obtain ⟨rfl, -⟩ := hg
  show Alike _ _ (liftM (FeeClaim.compute (g.enabling target) record snapshot
    (d.engine.commitments.allocation? voter gauge epoch) side) >>= _) _ _
  rw [FeeClaim.compute_enabling]
  refine alike_check_bind _ hboth fun claim? _ => ?_
  cases claim? with
  | none => exact alike_pure 0 hboth
  | some claim =>
    simp only [Gauge.fee_enabling, Gauge.feeVault_enabling]
    refine hboth.payDue_bind (p := ⟨(g.fee side).mint, g.feeVault side, lock.owner, claim.share⟩)
      fun tokens hpaid => (hpaid.changeEngine ?_).bind fun _ _ _ _ _ hR => alike_pure _ hR
    refine (Registry.update_enabling claim.applyToGauge (fun _ => rfl) (fun _ _ => rfl)
      d.engine.registry target gauge).bind fun r r' hr => agree_check_bind
      (d.engine.commitments.updateSnapshot voter epoch (claim.applyToSnapshot gauge))
      fun _ _ => .ok ?_
    rw [hr]
    rfl

/-- Whether gauges are enabled does not matter to bribes. -/
theorem bribeBlind_enabling (target : Address) :
    Engine.BribeBlind (Engine.Enabling target) where
  same {e e'} he := by
    obtain rfl : e' = e.enabling target := he
    exact {
      factory := rfl
      bribes := rfl
      registered := fun name => (e.registry.get_enabling target name).mono fun _ _ _ => trivial
      totalPower := fun _ _ _ => rfl
      allocation := fun _ _ _ _ => rfl }
  write {e e'} _ he := by
    obtain rfl : e' = e.enabling target := he
    rfl
  create {e e'} _ _ he _ := by
    obtain rfl : e' = e.enabling target := he
    rfl

/-! ## All of them -/

/-- The operation settles what is there, or lowers a weight. -/
def ignoresFlag (d : Deployment) : Operation → Bool
  | .revert .. | .close .. | .cleanEpochGauge .. | .claimFee .. | .createBribe ..
  | .claimBribe .. | .clawBackBribe .. => true
  | .setVote _ voter gauge weight => weight ≤ d.engine.weights.weight voter gauge
  | _ => false

/-- Settling does not look at whether a gauge is enabled. -/
theorem flag_blind (d : Deployment) (target : Address) {operation : Operation}
    (hignores : d.ignoresFlag operation = true) :
    (d.enabling target).answer operation = d.answer operation ∧
      (d.enabling target).after operation = (d.after operation).enabling target := by
  have halike : Alike (Beside (Engine.Enabling target)) (perform operation) (perform operation) d
      (d.enabling target) := by
    cases operation with
    | revert => exact (revert_enabling ..).map _
    | close => exact (close_enabling ..).map _
    | setVote => exact (setVote_enabling d target _ (decide_eq_true_iff.mp hignores)).map _
    | cleanEpochGauge =>
      exact (cleanEpochGauge_enabling ..).bind fun _ _ _ _ _ hR => alike_pure _ hR
    | claimFee => exact (alike_get_bind (claimFee_enabling ..)).map _
    | createBribe =>
      exact ((beside_enabling ..).createBribe (bribeBlind_enabling target) ..).map _
    | claimBribe =>
      exact (alike_get_bind ((beside_enabling ..).claimBribe (bribeBlind_enabling target) ..)).map _
    | clawBackBribe =>
      exact ((beside_enabling ..).clawBackBribe (bribeBlind_enabling target) ..).map _
    | _ => cases hignores
  exact ⟨halike.answer.symm, eq_enabling halike.after⟩

end Deployment
end EpochVoting
