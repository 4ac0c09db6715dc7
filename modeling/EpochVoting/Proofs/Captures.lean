import EpochVoting.Proofs.PoolSteps
import Mathlib.Data.List.Induction

/-!
# Fees are captured exactly once

A pool counts what it has earned for a gauge and keeps it until a capture moves it to the
gauge's fee vault.  Captures happen at most once an epoch, and not while the gauge is
disabled, so counter, vault and pool are written at different times.  What has been earned
since the gauge was registered is nevertheless always accounted for: not captured yet, in the
vault, or claimed (`Tally.step` for a step, `fees_captured_once` for a run).  And as the pool
holds what is not captured yet, no capture is ever refused (`Tally.ensures`).

This needs that the counters of a registered gauge move only by what it earns
(`MovesCounter`), that accounts have different addresses and that nobody else uses them
(`Segregated`).
-/

namespace EpochVoting
namespace Deployment

open Engine EpochVoting.Action

variable {S : Set Custody} {d d' : Deployment} {operation : Operation} {reply : Reply}
  {target : Address} {g : Gauge} {base earned : FeeSide → Nat}

/-! ## The tally of a gauge -/

/-- What the pool has counted for a gauge: `base` when the gauge was registered, and `earned`
since.  What the gauge has not captured of it, the pool holds. -/
structure Tally (d : Deployment) (target : Address) (base earned : FeeSide → Nat) (g : Gauge) :
    Prop where
  captured : ∀ side, (g.fee side).cumulativeAccrued.toNat + base side =
    (g.fee side).lastPoolTotal.toNat
  earned : ∀ side, base side + earned side = (d.pool.total target side).toNat
  counted : ∀ side, (g.fee side).lastPoolTotal.toNat ≤ (d.pool.total target side).toNat
  held : ∀ side, (d.pool.total target side).toNat ≤ (g.fee side).lastPoolTotal.toNat +
    (d.tokens.balance (g.fee side).mint (Account.poolFees target side)).toNat

/-- A gauge is registered with nothing captured, and the present counters of its pool. -/
theorem tally_starting {mints : PerSide Address} (hpool : d'.pool = d.pool) :
    d'.Tally target (fun side => (d.pool.total target side).toNat) (fun _ => 0)
      (.starting target mints (d.pool.totals target)) := by
  constructor <;> intro side <;> simp [FeeCounter.starting, FeePool.total, hpool]

/-- A capture takes all that the pool has counted. -/
theorem Tally.captured_all {capture : FeeCapture} (h : d.Tally target base earned g)
    (hcapture : FeeCapture.compute g (d.pool.totals target) = .ok capture)
    (hpool : d'.pool = d.pool) : d'.Tally target base earned (capture.apply g) := by
  obtain ⟨htotals, hsides⟩ := FeeCapture.compute_eq_ok_iff.mp hcapture
  have hlast (side : FeeSide) : ((capture.apply g).fee side).lastPoolTotal =
      d'.pool.total target side := by
    simp [htotals, hpool, FeePool.total]
  refine ⟨fun side => ?_, fun side => ?_, fun side => ?_, fun side => ?_⟩
  · obtain ⟨hgain, htotal⟩ := hsides side
    have hcaptured := h.captured side
    rw [hlast, hpool, FeePool.total]
    simp only [FeeCapture.fee_apply]
    omega
  · rw [hpool]
    exact h.earned side
  · rw [hlast]
  · rw [hlast]
    exact Nat.le_add_right ..

/-- The tally of a gauge with the same captures. -/
theorem Tally.of_captures {g' : Gauge} {gained : FeeSide → Nat}
    (h : d.Tally target base earned g)
    (hgauge : d.engine.registry.gauges.find? target = some g)
    (hgauge' : d'.engine.registry.gauges.find? target = some g')
    (hsame : d'.engine.registry.captures? target = d.engine.registry.captures? target)
    (hcounted : ∀ side, (d'.pool.total target side).toNat =
      (d.pool.total target side).toNat + gained side)
    (hheld : ∀ side,
      (d.tokens.balance (g.fee side).mint (Account.poolFees target side)).toNat + gained side ≤
        (d'.tokens.balance (g.fee side).mint (Account.poolFees target side)).toNat) :
    d'.Tally target base (fun side => earned side + gained side) g' := by
  have hcaptures (side : FeeSide) : (g'.fee side).mint = (g.fee side).mint ∧
      (g'.fee side).cumulativeAccrued = (g.fee side).cumulativeAccrued ∧
      (g'.fee side).lastPoolTotal = (g.fee side).lastPoolTotal := by
    simp only [Registry.captures?, hgauge, hgauge', Option.map_some, Option.some.injEq] at hsame
    simpa using congrFun hsame side
  refine ⟨fun side => ?_, fun side => ?_, fun side => ?_, fun side => ?_⟩ <;>
    obtain ⟨hmint, haccrued, hlast⟩ := hcaptures side
  · rw [haccrued, hlast]
    exact h.captured side
  · have hearned := h.earned side
    have hmoved := hcounted side
    omega
  · have hseen := h.counted side
    have hmoved := hcounted side
    rw [hlast]
    omega
  · have hbacked := h.held side
    have hmoved := hcounted side
    have hkept := hheld side
    rw [hlast, hmint]
    omega

/-- A step keeps a registered gauge, and the tally together with what the step earns. -/
theorem Tally.step (hS : Set.InjOn Custody.address S) (hguarded : Guarded S d)
    (hop : operation.Guarded S d) (hstep : Step d operation reply d')
    (hstill : (∀ side amount, operation ≠ .accrueFees target side amount) →
      d'.pool.totals target = d.pool.totals target)
    (hgauge : d.engine.registry.gauges.find? target = some g)
    (h : d.Tally target base earned g) :
    ∃ g', d'.engine.registry.gauges.find? target = some g' ∧
      d'.Tally target base (fun side => earned side + operation.earns target side) g' := by
  by_cases hcaptured : ∃ epoch, operation = .ensureEpochGauge target epoch ∧ reply = .flag true
  · obtain ⟨epoch, rfl, rfl⟩ := hcaptured
    cases hstep with
    | @captured _ _ g' capture _ _ hgauge' _ _ hcapture =>
      obtain rfl : g = g' := Option.some.inj (hgauge.symm.trans hgauge')
      obtain rfl := Registry.target_of_find? hgauge
      exact ⟨capture.apply g, Table.find?_insert_self .., h.captured_all hcapture rfl⟩
  · rcases hstep.captures_cases target with hsame | ⟨hnone, -⟩ | hcapture
    · have hfound : (d'.engine.registry.gauges.find? target).isSome = true := by
        have hmapped := congrArg Option.isSome hsame
        simpa [Registry.captures?, hgauge] using hmapped
      obtain ⟨g', hgauge'⟩ := Option.isSome_iff_exists.mp hfound
      exact ⟨g', hgauge', h.of_captures hgauge hgauge' hsame (hstep.total_eq hstill)
        (hstep.held_le hS hguarded hop hgauge hcaptured)⟩
    · simp [hnone] at hgauge
    · exact absurd hcapture hcaptured

/-! ## Runs -/

/-- What an operation earns for a side of a target by trading. -/
def earnedBy (target : Address) (d : Deployment) (operation : Operation) (side : FeeSide) : Nat :=
  match d.answer operation with
  | .ok _ => operation.earns target side
  | .error _ => 0

/-- What the operations of a run earn for a side of a target by trading. -/
def earnedIn (target : Address) (d : Deployment) : List Operation → FeeSide → Nat
  | [], _ => 0
  | operation :: rest, side =>
    d.earnedBy target operation side + earnedIn target (d.after operation) rest side

theorem earnedIn_append_singleton (done : List Operation) (operation : Operation)
    (d : Deployment) (side : FeeSide) : d.earnedIn target (done ++ [operation]) side =
      d.earnedIn target done side + (d.afterAll done).earnedBy target operation side := by
  induction done generalizing d with
  | nil => simp [earnedIn, afterAll]
  | cons first rest ih =>
    rw [List.cons_append, earnedIn, earnedIn, ih (d.after first), afterAll_cons, Nat.add_assoc]

/-- The operation moves the pool's counters of a registered gauge by something else than what
the gauge earns. -/
def MovesCounter (target : Address) (d : Deployment) (operation : Operation) : Prop :=
  (∃ g, d.engine.registry.gauges.find? target = some g) ∧
    (∀ side amount, operation ≠ .accrueFees target side amount) ∧
    (d.after operation).pool.totals target ≠ d.pool.totals target

theorem earnedBy_of_still (hstill : operation.movesPool = false) :
    d.earnedBy target operation = fun _ => 0 := by
  funext side
  unfold earnedBy
  split
  · exact Operation.earns_of_still hstill target side
  · rfl

theorem not_movesCounter (hstill : operation.movesPool = false) :
    ¬ d.MovesCounter target operation := by
  rintro ⟨-, -, hmoved⟩
  exact hmoved (by rw [pool_after hstill])

/-- What is earned by trading is counted for the gauge that earns it. -/
theorem not_movesCounter_accrueFees (earner : Address) (side : FeeSide) (amount : UInt64) :
    ¬ d.MovesCounter target (.accrueFees earner side amount) := by
  rintro ⟨-, hother, hmoved⟩
  have hne : earner ≠ target := by
    rintro rfl
    exact hother side amount rfl
  have hbasic : (Operation.accrueFees earner side amount).isBasic = true := rfl
  rcases after_cases (d := d) hbasic with hsame | ⟨_, hstep⟩ | ⟨_, hhalf⟩
  · exact hmoved (by rw [hsame])
  · generalize d.after _ = d' at hstep hmoved
    cases hstep with
    | accrueFees hgauge hearned => exact hmoved (FeePool.totals_of_accrue hearned hne)
  · generalize d.after _ = d' at hhalf
    cases hhalf

/-- Where nothing but trading writes to the pools, their counters move only by what the gauges
earn. -/
theorem not_occurs_movesCounter {run : List Operation}
    (honly : ∀ operation ∈ run, operation.movesPool = true →
      ∃ earner side amount, operation = .accrueFees earner side amount) (d : Deployment) :
    ¬ d.Occurs (MovesCounter target) run := by
  refine not_occurs (fun operation hoperation d => ?_) d
  by_cases hmoves : operation.movesPool = true
  · obtain ⟨earner, side, amount, rfl⟩ := honly operation hoperation hmoves
    exact not_movesCounter_accrueFees earner side amount
  · exact not_movesCounter (Bool.not_eq_true _ ▸ hmoves)

/-- While the vaults are solvent every basic operation that fails leaves nothing. -/
theorem InCustody.atomic (hd : InCustody S d) (hS : Set.InjOn Custody.address S)
    (hbasic : operation.isBasic = true) : Atomic (perform operation) d := by
  intro error d' hrun
  exact (atomic_or_interrupted hbasic hrun).resolve_right
    (hd.solvent.not_interrupted hS hd.guarded)

section

variable (hS : Set.InjOn Custody.address S) (hd : InCustody S d) (hop : operation.Guarded S d)

include hS hd hop

/-- A basic operation keeps the tally together with what it earns. -/
theorem Tally.after_basic (hbasic : operation.isBasic = true)
    (hstill : ¬ d.MovesCounter target operation)
    (hgauge : d.engine.registry.gauges.find? target = some g)
    (h : d.Tally target base earned g) :
    ∃ g', (d.after operation).engine.registry.gauges.find? target = some g' ∧
      (d.after operation).Tally target base
        (fun side => earned side + d.earnedBy target operation side) g' := by
  cases hrun : (perform operation).run d with
  | ok reply d' =>
    have hafter : d.after operation = d' := by rw [after_eq_leaves, leaves_of_ok hrun]
    have hearned : d.earnedBy target operation = fun side => operation.earns target side := by
      funext side
      rw [earnedBy, answer_of_run hrun]
    rw [hearned, hafter]
    refine h.step hS hd.guarded hop (step_of_perform hbasic hrun) (fun hother => ?_) hgauge
    by_contra hmoved
    exact hstill ⟨⟨g, hgauge⟩, hother, by rwa [hafter]⟩
  | error error d' =>
    have hsame : d.after operation = d := by
      rw [after_eq_leaves, leaves_of_error (hd.atomic hS hbasic) hrun]
    have hearned : d.earnedBy target operation = fun _ => 0 := by
      funext side
      rw [earnedBy, answer_of_refused hrun]
    rw [hsame, hearned]
    exact ⟨g, hgauge, h⟩

/-- An operation keeps the tally together with what it earns. -/
theorem Tally.after (hstill : ¬ d.MovesCounter target operation)
    (hgauge : d.engine.registry.gauges.find? target = some g)
    (h : d.Tally target base earned g) :
    ∃ g', (d.after operation).engine.registry.gauges.find? target = some g' ∧
      (d.after operation).Tally target base
        (fun side => earned side + d.earnedBy target operation side) g' := by
  by_cases hbasic : operation.isBasic = true
  · exact h.after_basic hS hd hop hbasic hstill hgauge
  have hseveral : operation.isBasic = false := Bool.not_eq_true _ ▸ hbasic
  rw [earnedBy_of_still (Operation.movesPool_of_several hseveral)]
  refine (after_induction (P := fun x => InCustody S x ∧ ∃ g',
    x.engine.registry.gauges.find? target = some g' ∧ x.Tally target base earned g') hseveral ?_
    ⟨hd, g, hgauge, h⟩).2
  rintro part hmade x ⟨hx, g', hgauge', htally⟩
  have hpart := hmade.guarded hop x
  have hkept := htally.after_basic hS hx hpart hmade.isPart.1 (not_movesCounter hmade.movesPool)
    hgauge'
  rw [earnedBy_of_still hmade.movesPool] at hkept
  exact ⟨hx.after hS hmade.isPart.1 hpart, hkept⟩

omit hS hd hop in
/-- A basic operation that registers a gauge starts its tally. -/
theorem tally_of_registered_basic (hbasic : operation.isBasic = true)
    (hnone : d.engine.registry.gauges.find? target = none)
    (hgauge : (d.after operation).engine.registry.gauges.find? target = some g) :
    (d.after operation).Tally target (fun side => (d.pool.total target side).toNat)
      (fun _ => 0) g := by
  rcases engine_after_cases (d := d) hbasic with hsame | ⟨_, hstep⟩
  · simp [hsame, hnone] at hgauge
  rcases hstep.captures_cases target with hsame | ⟨-, hpool, mints, hstarted⟩ | ⟨_, rfl, rfl⟩
  · simp [Registry.captures?, hnone, hgauge] at hsame
  · obtain rfl := Option.some.inj (hgauge.symm.trans hstarted)
    exact tally_starting hpool
  · generalize d.after _ = d' at hstep
    cases hstep with
    | captured _ hold => simp [hnone] at hold

/-- The operation that registers a gauge starts its tally. -/
theorem tally_of_registered (hnone : d.engine.registry.gauges.find? target = none)
    (hgauge : (d.after operation).engine.registry.gauges.find? target = some g) :
    (d.after operation).Tally target (fun side => (d.pool.total target side).toNat)
      (fun _ => 0) g := by
  by_cases hbasic : operation.isBasic = true
  · exact tally_of_registered_basic hbasic hnone hgauge
  -- The call that registers the gauge starts the tally, and those after it keep it.
  refine (after_induction (P := fun x => InCustody S x ∧ x.pool = d.pool ∧ ∀ g,
    x.engine.registry.gauges.find? target = some g →
      x.Tally target (fun side => (d.pool.total target side).toNat) (fun _ => 0) g)
    (Bool.not_eq_true _ ▸ hbasic) ?_ ⟨hd, rfl, by simp [hnone]⟩).2.2 g hgauge
  rintro part hmade x ⟨hx, hpool, htally⟩
  have hpart := hmade.guarded hop x
  refine ⟨hx.after hS hmade.isPart.1 hpart, (pool_after hmade.movesPool).trans hpool, ?_⟩
  intro g' hgauge'
  cases hold : x.engine.registry.gauges.find? target with
  | none =>
    rw [← hpool]
    exact tally_of_registered_basic hmade.isPart.1 hold hgauge'
  | some g₀ =>
    obtain ⟨g₁, hgauge₁, hkept⟩ := (htally g₀ hold).after_basic hS hx hpart hmade.isPart.1
      (not_movesCounter hmade.movesPool) hold
    obtain rfl := Option.some.inj (hgauge'.symm.trans hgauge₁)
    rwa [earnedBy_of_still hmade.movesPool] at hkept

end

/-- The tally of a gauge after a run in which the counters of its pool move only by what it
earns. -/
theorem tally_along_run {foreman : Address} {params : FactoryParams} {maxLockSecs : UInt64}
    {run done : List Operation} (hcreate : create foreman params maxLockSecs = .ok d)
    (hrun : Segregated run) (hdone : done <+: run)
    (honly : ¬ d.Occurs (MovesCounter target) done)
    (hgauge : (d.afterAll done).engine.registry.gauges.find? target = some g) :
    ∃ before creation rest, done = before ++ creation :: rest ∧
      (d.afterAll before).engine.registry.gauges.find? target = none ∧
      (∃ g₀, (d.afterAll (before ++ [creation])).engine.registry.gauges.find? target = some g₀) ∧
      (d.afterAll done).Tally target
        (fun side => ((d.afterAll before).pool.total target side).toNat)
        ((d.afterAll (before ++ [creation])).earnedIn target rest) g := by
  induction done using List.reverseRecOn generalizing g with
  | nil =>
    obtain ⟨engine, hengine, heq⟩ := bind_eq_ok_iff.mp hcreate
    obtain ⟨factory, hfactory, hrest⟩ := bind_eq_ok_iff.mp hengine
    cases heq
    cases hrest
    cases hgauge
  | append_singleton done operation ih =>
    obtain ⟨later, rfl⟩ := hdone
    rw [occurs_append_singleton, not_or] at honly
    rw [List.append_assoc, List.singleton_append] at hrun ih
    have hcustody := hrun.inCustody (List.prefix_append done _) hcreate
    have hguarded := hrun.guarded hcreate
    have hlast : d.afterAll (done ++ [operation]) = (d.afterAll done).after operation :=
      afterAll_append d done [operation]
    rw [hlast] at hgauge ⊢
    cases hold : (d.afterAll done).engine.registry.gauges.find? target with
    | none =>
      refine ⟨done, operation, [], rfl, hold, ⟨g, by rwa [hlast]⟩, ?_⟩
      exact tally_of_registered hrun.injOn hcustody hguarded hold hgauge
    | some g₀ =>
      obtain ⟨before, creation, rest, rfl, hnone, hsome, htally⟩ :=
        ih (List.prefix_append done _) honly.1 hold
      obtain ⟨g₁, hgauge₁, hkept⟩ := htally.after hrun.injOn hcustody hguarded honly.2 hold
      obtain rfl := Option.some.inj (hgauge.symm.trans hgauge₁)
      refine ⟨before, creation, rest ++ [operation], by simp, hnone, hsome, ?_⟩
      have hbetween : (d.afterAll (before ++ [creation])).afterAll rest =
          d.afterAll (before ++ creation :: rest) := by
        rw [← afterAll_append, List.append_assoc, List.singleton_append]
      have hearned : (d.afterAll (before ++ [creation])).earnedIn target (rest ++ [operation]) =
          fun side => (d.afterAll (before ++ [creation])).earnedIn target rest side +
            (d.afterAll (before ++ creation :: rest)).earnedBy target operation side := by
        funext side
        rw [earnedIn_append_singleton, hbetween]
      rw [hearned]
      exact hkept

/-! ## Captures are never refused -/

/-- The counters of a tally can be captured: none has fallen, and none overflows. -/
theorem Tally.computes (h : d.Tally target base earned g) :
    ∃ capture, FeeCapture.compute g (d.pool.totals target) = .ok capture := by
  have hfits (side : FeeSide) :
      (d.pool.total target side).toNat - (g.fee side).lastPoolTotal.toNat < 2 ^ 64 ∧
      (g.fee side).cumulativeAccrued.toNat +
        ((d.pool.total target side).toNat - (g.fee side).lastPoolTotal.toNat) < 2 ^ 64 := by
    have hcaptured := h.captured side
    have hcounted := h.counted side
    have hlt := (d.pool.total target side).toNat_lt
    omega
  refine ⟨⟨d.pool.totals target,
    .ofFn fun side => .ofNat ((d.pool.total target side).toNat - (g.fee side).lastPoolTotal.toNat),
    .ofFn fun side => .ofNat ((g.fee side).cumulativeAccrued.toNat +
      ((d.pool.total target side).toNat - (g.fee side).lastPoolTotal.toNat))⟩,
    FeeCapture.compute_eq_ok_iff.mpr ⟨rfl, fun side => ?_⟩⟩
  simp only [PerSide.get_ofFn, Amount.toNat_ofNat (hfits side).1,
    Amount.toNat_ofNat (hfits side).2, and_true]
  exact (Nat.sub_add_cancel (h.counted side)).symm

section

variable {capture : FeeCapture} (hS : Set.InjOn Custody.address S) (hd : InCustody S d)
  (hgauge : d.engine.registry.gauges.find? target = some g)
  (hcapture : FeeCapture.compute g (d.pool.totals target) = .ok capture)
  (h : d.Tally target base earned g)

include hcapture h

/-- The pool holds what a capture takes. -/
theorem Tally.holds (side : FeeSide) : capture.accrued.get side ≤
    d.tokens.balance (g.fee side).mint (Account.poolFees target side) := by
  obtain ⟨-, hsides⟩ := FeeCapture.compute_eq_ok_iff.mp hcapture
  have hgain : (d.pool.total target side).toNat = _ := (hsides side).1
  have hheld := h.held side
  rw [UInt64.le_iff_toNat_le]
  omega

include hS hd hgauge

/-- A capture can be paid. -/
theorem Tally.settles (henabled : g.enabled = true)
    (hnone : d.engine.commitments.epochGauge? target d.engine.currentEpoch = none) :
    ∃ tokens, d.tokens.settle (capture.payments g) = .ok tokens := by
  have hheld := h.holds hcapture
  obtain ⟨-, hsides⟩ := FeeCapture.compute_eq_ok_iff.mp hcapture
  obtain rfl := Registry.target_of_find? hgauge
  obtain ⟨first, hfirst⟩ : ∃ tokens, d.tokens.settle (capture.payment g .a).due = .ok tokens := by
    refine TokenLedger.settle_due_succeeds fun _ => TokenLedger.transfer_succeeds
      (UInt64.le_iff_toNat_le.mp (hheld .a)) fun _ => ?_
    -- The vault holds no more than its counter, and the counter can take the fees.
    have hvault := hd.solvent.feeVault_eq hd.guarded hgauge .a
    have hfits := (capture.cumulativeAccrued.get .a).toNat_lt
    have hcounted := (hsides .a).2
    simp only [FeeCapture.payment]
    omega
  -- The second payment is not refused either, or the capture would be stopped halfway.
  obtain ⟨tokens, hsecond⟩ : ∃ tokens, first.settle (capture.payment g .b).due = .ok tokens := by
    refine TokenLedger.settle_due_succeeds fun hdue => ?_
    cases hmoved : first.transfer (g.fee .b).mint (Account.poolFees g.target .b)
        (g.feeVault .b) (capture.accrued.get .b) with
    | ok tokens => exact ⟨tokens, hmoved⟩
    | error refusal =>
      have hhalf : Interrupted d (.ensureEpochGauge g.target none) (.ofExternal refusal)
          { d with tokens := first } :=
        .capture rfl hgauge henabled hnone hcapture hheld hfirst hdue hmoved
      exact absurd hhalf (hd.solvent.not_interrupted hS hd.guarded)
  exact ⟨tokens, TokenLedger.settle_append.mpr ⟨first, hfirst, hsecond⟩⟩

end

/-- There is nothing to do for a gauge that has a record already. -/
theorem run_ensureEpochGauge_of_record {r : EpochGauge}
    (hgauge : d.engine.registry.gauges.find? target = some g) (henabled : g.enabled = true)
    (hr : d.engine.commitments.epochGauge? target d.engine.currentEpoch = some r) :
    (ensureEpochGauge target d.engine.currentEpoch).run d = .ok false d := by
  unfold ensureEpochGauge
  simp only [run_get_bind, run_bind_eq_ok_iff, run_lift_eq_ok_iff,
    Factory.requireLive_eq_ok_iff, Registry.get_eq_ok_iff, Gauge.requireEnabled_eq_ok_iff]
  refine ⟨(), d, ⟨rfl, rfl⟩, g, d, ⟨hgauge, rfl⟩, (), d, ⟨henabled, rfl⟩, ?_⟩
  rw [hr, Option.isSome_some, if_pos rfl, run_pure_eq_ok_iff]
  exact ⟨rfl, rfl⟩

/-- A capture whose checks are passed and whose payments go through creates the record. -/
theorem run_ensureEpochGauge_of_paid {capture : FeeCapture} {tokens : TokenLedger}
    (hgauge : d.engine.registry.gauges.find? target = some g) (henabled : g.enabled = true)
    (hnone : d.engine.commitments.epochGauge? target d.engine.currentEpoch = none)
    (hcapture : FeeCapture.compute g (d.pool.totals target) = .ok capture)
    (hheld : ∀ side, capture.accrued.get side ≤
      d.tokens.balance (g.fee side).mint (Account.poolFees target side))
    (hpaid : d.tokens.settle (capture.payments g) = .ok tokens) :
    (ensureEpochGauge target d.engine.currentEpoch).run d = .ok true { d with
      tokens, engine := d.engine.recordCapture g d.engine.currentEpoch capture } := by
  obtain ⟨first, hfirst, hsecond⟩ := TokenLedger.settle_append.mp hpaid
  unfold ensureEpochGauge
  simp only [run_get_bind, run_bind_eq_ok_iff, run_lift_eq_ok_iff,
    Factory.requireLive_eq_ok_iff, Registry.get_eq_ok_iff, Gauge.requireEnabled_eq_ok_iff]
  refine ⟨(), d, ⟨rfl, rfl⟩, g, d, ⟨hgauge, rfl⟩, (), d, ⟨henabled, rfl⟩, ?_⟩
  rw [hnone, Option.isSome_none, if_neg Bool.false_ne_true]
  simp only [moveCaptured_bind, run_bind_eq_ok_iff, run_lift_eq_ok_iff,
    run_requireBalance_eq_ok_iff, run_captureSide_eq_ok_iff, run_changeEngine_eq_ok_iff,
    run_pure_eq_ok_iff]
  exact ⟨capture, d, ⟨hcapture, rfl⟩, (), d, ⟨hheld .a, rfl⟩, (), d, ⟨hheld .b, rfl⟩, (), _,
    ⟨first, hfirst, rfl⟩, (), _, ⟨tokens, hsecond, rfl⟩, (), _,
    ⟨_, captureRecords_eq hgauge hnone, rfl⟩, trivial, rfl⟩

/-- The record of the current epoch is created whenever an enabled gauge has none. -/
theorem Tally.ensures (hS : Set.InjOn Custody.address S) (hd : InCustody S d)
    (hgauge : d.engine.registry.gauges.find? target = some g) (henabled : g.enabled = true)
    (hnone : d.engine.commitments.epochGauge? target d.engine.currentEpoch = none)
    (h : d.Tally target base earned g) {epoch : Option Epoch}
    (hlive : epoch.getD d.engine.currentEpoch = d.engine.currentEpoch) :
    d.answer (.ensureEpochGauge target epoch) = .ok (.flag true) := by
  obtain ⟨capture, hcapture⟩ := h.computes
  obtain ⟨tokens, hpaid⟩ := h.settles hS hd hgauge hcapture henabled hnone
  have hrun := run_ensureEpochGauge_of_paid hgauge henabled hnone hcapture (h.holds hcapture) hpaid
  have hperformed : (perform (.ensureEpochGauge target epoch)).run d = .ok (.flag true) { d with
      tokens, engine := d.engine.recordCapture g d.engine.currentEpoch capture } := by
    rw [perform, run_get_bind, hlive, map_eq_pure_bind, EStateM.run_bind, hrun]
    rfl
  exact answer_of_run hperformed

/-- What the counters and the accounts of a side say, if the pool had counted `base` when the
gauge was registered and has counted `earned` since. -/
structure FeesTraced (d : Deployment) (g : Gauge) (side : FeeSide) (base earned : Nat) :
    Prop where
  /-- All was captured that was counted up to the last capture. -/
  captured_eq : (g.fee side).cumulativeAccrued.toNat + base = (g.fee side).lastPoolTotal.toNat
  /-- The counter is where it was at the last capture, or beyond. -/
  last_le : (g.fee side).lastPoolTotal.toNat ≤ (d.pool.total g.target side).toNat
  /-- The pool holds what was counted since. -/
  held : (d.pool.total g.target side).toNat - (g.fee side).lastPoolTotal.toNat ≤
    (d.tokens.balance (g.fee side).mint (Account.poolFees g.target side)).toNat
  /-- What was earned is not captured yet, in the vault, or claimed. -/
  earned_eq : earned =
    ((d.pool.total g.target side).toNat - (g.fee side).lastPoolTotal.toNat) +
      (d.tokens.balance (g.fee side).mint (g.feeVault side)).toNat +
      (g.fee side).cumulativeClaimed.toNat

/-- After every segregated run in which the pool's counters of a registered gauge move only by
what it earns, all that it has earned since it was registered is accounted for.  If the gauge
is enabled and has no record of the current epoch yet, then the call to create one succeeds. -/
theorem fees_captured_once {foreman : Address} {params : FactoryParams} {maxLockSecs : UInt64}
    {run : List Operation} (hcreate : create foreman params maxLockSecs = .ok d)
    (hrun : Segregated run) (honly : ¬ d.Occurs (MovesCounter target) run)
    (hgauge : (d.afterAll run).engine.registry.gauges.find? target = some g) :
    (∃ before creation rest, run = before ++ creation :: rest ∧
      (d.afterAll before).engine.registry.gauges.find? target = none ∧
      (∃ g₀, (d.afterAll (before ++ [creation])).engine.registry.gauges.find? target = some g₀) ∧
      ∀ side, (d.afterAll run).FeesTraced g side
        ((d.afterAll before).pool.total target side).toNat
        ((d.afterAll (before ++ [creation])).earnedIn target rest side)) ∧
    (g.enabled = true → (d.afterAll run).engine.commitments.epochGauge? target
        (d.afterAll run).engine.currentEpoch = none →
      ∀ epoch : Option Epoch,
        epoch.getD (d.afterAll run).engine.currentEpoch = (d.afterAll run).engine.currentEpoch →
          (d.afterAll run).answer (.ensureEpochGauge target epoch) = .ok (.flag true)) := by
  have hcustody := hrun.inCustody (List.prefix_refl run) hcreate
  obtain ⟨before, creation, rest, hsplit, hnone, hsome, htally⟩ :=
    tally_along_run hcreate hrun (List.prefix_refl run) honly hgauge
  refine ⟨⟨before, creation, rest, hsplit, hnone, hsome, fun side => ?_⟩, ?_⟩
  · have hvault := hcustody.solvent.feeVault_eq hcustody.guarded hgauge side
    obtain rfl := Registry.target_of_find? hgauge
    have hcaptured := htally.captured side
    have hearned := htally.earned side
    have hcounted := htally.counted side
    have hheld := htally.held side
    exact ⟨hcaptured, hcounted, by omega, by omega⟩
  · intro henabled hmissing epoch hlive
    exact htally.ensures hrun.injOn hcustody hgauge henabled hmissing hlive

theorem fees_captured_once_along_sample : ∃ g,
    (Sample.deployment.afterAll Sample.run).engine.registry.gauges.find? (Sample.account 1) =
      some g ∧
    (∃ before creation rest, Sample.run = before ++ creation :: rest ∧ ∀ side,
      (Sample.deployment.afterAll Sample.run).FeesTraced g side
        ((Sample.deployment.afterAll before).pool.total (Sample.account 1) side).toNat
        ((Sample.deployment.afterAll (before ++ [creation])).earnedIn (Sample.account 1) rest
          side)) ∧
    (Sample.deployment.afterAll Sample.run).answer
      (.ensureEpochGauge (Sample.account 1) none) = .ok (.flag true) := by
  have honly : ¬ Sample.deployment.Occurs (MovesCounter (Sample.account 1)) Sample.run := by
    refine not_occurs (fun operation hoperation d => ?_) _
    have hcases : ∀ operation ∈ Sample.run,
        operation.movesPool = false ∨ operation = .accrueFees (Sample.account 1) .a 30 := by
      decide +kernel
    rcases hcases operation hoperation with hstill | rfl
    · exact not_movesCounter hstill
    · exact fun hmoves => hmoves.2.1 .a 30 rfl
  have hlast : ((Sample.deployment.afterAll Sample.run).engine.registry.gauges.find?
        (Sample.account 1)).map Gauge.enabled = some true ∧
      (Sample.deployment.afterAll Sample.run).engine.commitments.epochGauge? (Sample.account 1)
        (Sample.deployment.afterAll Sample.run).engine.currentEpoch = none := by
    decide +kernel
  obtain ⟨g, hgauge, henabled⟩ := Option.map_eq_some_iff.mp hlast.1
  obtain ⟨⟨before, creation, rest, hsplit, -, -, htraced⟩, hensures⟩ :=
    fees_captured_once Sample.create_deployment Sample.segregated_run honly hgauge
  exact ⟨g, hgauge, ⟨before, creation, rest, hsplit, htraced⟩,
    hensures henabled hlast.2 none rfl⟩

end Deployment
end EpochVoting
