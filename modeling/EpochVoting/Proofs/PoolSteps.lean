import EpochVoting.Proofs.Losses
import EpochVoting.Proofs.Segregation

/-!
# The pool, step by step

The pool has a counter and an account for each side of a target.  The counters move when the
pool earns, or are set (`pool_after`).  What the account of a registered gauge holds, it loses
only by a capture of that gauge (`Step.capture_of_loss`).  And what captures have left at a
gauge (`Registry.captures?`) changes when the gauge is registered, and by its own captures
(`Step.captures_cases`).
-/

namespace EpochVoting

namespace FeePool

variable {p p' : FeePool} {t t' : TokenLedger} {target mint : Address} {side : FeeSide}

theorem total_setTotal (p : FeePool) (target : Address) (side : FeeSide) (total : UInt64)
    (other : Address) (s : FeeSide) : (p.setTotal target side total).total other s =
      if target = other ∧ side = s then total else p.total other s := by
  unfold setTotal FeePool.total totals
  rw [Table.find?_insert_ite]
  by_cases htarget : target = other
  · subst htarget
    by_cases hside : side = s
    · subst hside
      simp [Keyed.key]
    · simp [Keyed.key, hside, PerSide.get_set_of_ne]
  · simp [Keyed.key, htarget]

/-- What is earned is counted, and paid to the pool. -/
theorem accrue_eq_ok {amount : UInt64}
    (h : p.accrue t target side mint amount = .ok (p', t')) :
    t.issue mint (Account.poolFees target side) amount = .ok t' ∧
      ∀ other s, (p'.total other s).toNat =
        (p.total other s).toNat + if target = other ∧ side = s then amount.toNat else 0 := by
  obtain ⟨next, hnext, hcounted⟩ := bind_eq_ok_iff.mp h
  obtain ⟨tokens, hissued, heq⟩ := bind_eq_ok_iff.mp hcounted
  cases heq
  rw [demand_eq_ok_iff, Amount.add?_eq_some_iff] at hnext
  refine ⟨hissued, fun other s => ?_⟩
  rw [total_setTotal]
  by_cases hkey : target = other ∧ side = s
  · obtain ⟨rfl, rfl⟩ := hkey
    simp [hnext]
  · simp [hkey]

/-- What one target earns is not counted for another. -/
theorem totals_of_accrue {amount : UInt64} {other : Address}
    (h : p.accrue t target side mint amount = .ok (p', t')) (hother : target ≠ other) :
    p'.totals other = p.totals other := by
  refine PerSide.ext_get fun s => UInt64.toNat_inj.mp ?_
  have hcounted := (accrue_eq_ok h).2 other s
  rwa [if_neg fun hkey => hother hkey.1] at hcounted

end FeePool

namespace Registry

variable {r : Registry} {g : Gauge} {target : Address}

/-- What captures have left at a gauge: for each side the mint, the fees captured so far and
the pool's counter at the last capture. -/
def captures? (r : Registry) (target : Address) : Option (FeeSide → Address × UInt64 × UInt64) :=
  (r.gauges.find? target).map fun g side =>
    ((g.fee side).mint, (g.fee side).cumulativeAccrued, (g.fee side).lastPoolTotal)

/-- A gauge put in the place of one with the same captures. -/
theorem captures?_put_same (g' : Gauge) (hgauge : r.gauges.find? target = some g)
    (hname : g'.target = g.target)
    (hsame : ∀ side, (g'.fee side).mint = (g.fee side).mint ∧
      (g'.fee side).cumulativeAccrued = (g.fee side).cumulativeAccrued ∧
      (g'.fee side).lastPoolTotal = (g.fee side).lastPoolTotal) (other : Address) :
    (r.put g').captures? other = r.captures? other := by
  obtain rfl := target_of_find? hgauge
  unfold captures? put
  rw [Table.find?_insert_ite]
  by_cases hother : g.target = other
  · subst hother
    simp [Keyed.key, hname, hgauge, hsame]
  · simp [Keyed.key, hname, hother]

end Registry

namespace Operation

/-- What an operation that succeeds earns for a side of a target by trading. -/
def earns (target : Address) (side : FeeSide) : Operation → Nat
  | .accrueFees earner s amount => if earner = target ∧ s = side then amount.toNat else 0
  | _ => 0

/-- The operation writes to the pool. -/
def movesPool : Operation → Bool
  | .accrueFees .. | .accruePool .. | .setPoolTotal .. => true
  | _ => false

theorem earns_of_still {operation : Operation} (hstill : operation.movesPool = false)
    (target : Address) (side : FeeSide) : operation.earns target side = 0 := by
  cases operation with
  | accrueFees => cases hstill
  | _ => rfl

theorem movesPool_of_several {operation : Operation} (hseveral : operation.isBasic = false) :
    operation.movesPool = false := by
  cases operation with
  | accrueFees | accruePool | setPoolTotal => cases hseveral
  | _ => rfl

theorem Makes.movesPool {part operation : Operation} (h : operation.Makes part) :
    part.movesPool = false := by
  cases h with
  | commit hpart => cases hpart <;> rfl
  | _ => rfl

/-- The calls of an operation bring in nothing more. -/
theorem Makes.guarded {part operation : Operation} (h : operation.Makes part)
    {S : Set Custody} {d : Deployment} (hop : operation.Guarded S d) (d' : Deployment) :
    part.Guarded S d' where
  targets target htarget := hop.targets target (h.isPart.2.1 htarget)
  outsiders account haccount := hop.outsiders account (h.isPart.2.2 haccount)
  bribe hcreates := absurd h.newBribes hcreates

end Operation

namespace Deployment

open Engine EpochVoting.Action

variable {S : Set Custody} {d d' : Deployment} {operation : Operation} {reply : Reply}
  {target : Address} {g : Gauge}

theorem pool_after_part (hstill : operation.movesPool = false) (hbasic : operation.isBasic = true) :
    (d.after operation).pool = d.pool := by
  rcases after_cases (d := d) hbasic with hsame | ⟨_, hstep⟩ | ⟨_, hhalf⟩
  · rw [hsame]
  · generalize d.after operation = d' at hstep ⊢
    cases hstep with
    | accrueFees | accruePool | setPoolTotal => cases hstill
    | _ => rfl
  · generalize d.after operation = d' at hhalf ⊢
    cases hhalf
    rfl

/-- What does not write to the pool leaves it as it is. -/
theorem pool_after (hstill : operation.movesPool = false) :
    (d.after operation).pool = d.pool := by
  by_cases hbasic : operation.isBasic = true
  · exact pool_after_part hstill hbasic
  · refine after_induction (P := fun x => x.pool = d.pool) (Bool.not_eq_true _ ▸ hbasic) ?_ rfl
    intro part hmade x hx
    exact (pool_after_part hmade.movesPool hmade.isPart.1).trans hx

/-- The captures of a gauge start when it is registered, and move when the gauge's record of
an epoch is created. -/
theorem Step.captures_cases (h : Step d operation reply d') (target : Address) :
    d'.engine.registry.captures? target = d.engine.registry.captures? target ∨
    (d.engine.registry.gauges.find? target = none ∧ d'.pool = d.pool ∧ ∃ mints,
      d'.engine.registry.gauges.find? target =
        some (.starting target mints (d.pool.totals target))) ∨
    ∃ epoch, operation = .ensureEpochGauge target epoch ∧ reply = .flag true := by
  by_cases hwrites : Book.registry ∈ operation.writes
  case neg =>
    have hsame : d'.engine.registry = d.engine.registry := h.keeps .registry hwrites
    exact Or.inl (by rw [hsame])
  case pos =>
    cases h with
    | @createGauge new mints engine hcall =>
      obtain ⟨hnone, rfl⟩ := createGauge_eq_ok_iff.mp hcall
      by_cases hnew : new = target
      · subst hnew
        exact Or.inr (Or.inl ⟨hnone, rfl, mints, Table.find?_insert_self ..⟩)
      · left
        simp only [Registry.captures?, Registry.put, Table.find?_insert_ite]
        simp [Keyed.key, Gauge.starting, hnew]
    | @setGaugeEnabled authority other enabled changed engine hcall =>
      obtain ⟨g, hgauge, rfl⟩ := setGaugeEnabled_eq_ok hcall
      exact Or.inl (Registry.captures?_put_same { g with enabled } hgauge rfl
        (fun side => ⟨rfl, rfl, rfl⟩) target)
    | @captured other epoch g capture _ _ hgauge =>
      by_cases hother : other = target
      · exact Or.inr (Or.inr ⟨epoch, by rw [hother], rfl⟩)
      · left
        have hname : (capture.apply g).target = other :=
          FeeCapture.apply_target.trans (Registry.target_of_find? hgauge)
        simp only [recordCapture, Registry.captures?, Registry.put, Table.find?_insert_ite]
        simp only [Keyed.key, hname, if_neg hother]
    | @cleaned _ _ g _ pruned _ _ _ hgauge =>
      exact Or.inl (Registry.captures?_put_same (g.setPruned pruned) hgauge rfl
        (fun side => by simp) target)
    | @feePaid _ _ _ _ _ _ g _ _ claim _ _ _ _ hgauge =>
      refine Or.inl (Registry.captures?_put_same (claim.applyToGauge g) hgauge rfl
        (fun side => ?_) target)
      by_cases hside : claim.side = side
      · subst hside
        simp [FeeClaim.fee_applyToGauge_self]
      · simp [FeeClaim.fee_applyToGauge_of_ne hside]
    | foundEpochGauge | unvotedFee => exact Or.inl rfl
    | _ => simp [Operation.writes] at hwrites

/-- The counters of a pool that moves only by what it earns. -/
theorem Step.total_eq (h : Step d operation reply d')
    (hstill : (∀ side amount, operation ≠ .accrueFees target side amount) →
      d'.pool.totals target = d.pool.totals target) (side : FeeSide) :
    (d'.pool.total target side).toNat =
      (d.pool.total target side).toNat + operation.earns target side := by
  by_cases hearns : ∃ s amount, operation = .accrueFees target s amount
  · obtain ⟨s, amount, rfl⟩ := hearns
    cases h with
    | accrueFees hgauge hearned => exact (FeePool.accrue_eq_ok hearned).2 target side
  · have hother : ∀ s amount, operation ≠ .accrueFees target s amount :=
      fun s amount heq => hearns ⟨s, amount, heq⟩
    have hnothing : operation.earns target side = 0 := by
      cases operation with
      | accrueFees earner s amount =>
        refine if_neg fun hkey => hother s amount ?_
        rw [hkey.1]
      | _ => rfl
    rw [FeePool.total, hstill hother, hnothing]
    rfl

/-- What a pool holds for a gauge it loses only by a capture of that gauge. -/
theorem Step.capture_of_loss (hS : Set.InjOn Custody.address S) (hguarded : Guarded S d)
    (hop : operation.Guarded S d) (h : Step d operation reply d')
    (hgauge : d.engine.registry.gauges.find? target = some g) {side : FeeSide} {mint : Address}
    (hloss : (d'.tokens.balance mint (Account.poolFees target side)).toNat <
      (d.tokens.balance mint (Account.poolFees target side)).toNat) :
    ∃ epoch, operation = .ensureEpochGauge target epoch ∧ reply = .flag true := by
  have hpool : Custody.poolFees target side ∈ S :=
    hguarded.gauges target g hgauge _ (Custody.poolFees_mem_ofTarget target side)
  -- Another account of `S` has another address, and so has one that is not of `S`.
  have hsame {c : Custody} (hc : c ∈ S) (heq : Account.poolFees target side = c.address) :
      c = .poolFees target side :=
    hS hc hpool heq.symm
  have hnot {account : Address} (houtside : Outside S account) :
      account ≠ Account.poolFees target side :=
    (houtside _ hpool).symm
  rcases h.source_of_loss hloss with ⟨_, epoch, g', s, hother, heq, rfl, rfl⟩ |
    ⟨_, g', s, hother, heq⟩ | ⟨id, b, hbribe, heq⟩ | ⟨_, _, _, _, rfl, -⟩ | ⟨_, _, rfl⟩
  · obtain rfl := Registry.target_of_find? hother
    have hmember := hguarded.gauges _ g' hother _ (Custody.poolFees_mem_ofTarget g'.target s)
    cases hsame hmember heq
    exact ⟨epoch, rfl, rfl⟩
  · obtain rfl := Registry.target_of_find? hother
    have hmember := hguarded.gauges _ g' hother _ (Custody.feeVault_mem_ofTarget g'.target s)
    cases hsame hmember heq
  · obtain rfl := BribeLedger.id_of_find? hbribe
    cases hsame (hguarded.bribes b.id b hbribe).1 heq
  · exact absurd rfl (hnot (hop.outsiders _ List.mem_cons_self))
  · exact absurd rfl (hnot (hop.outsiders _ List.mem_cons_self))

/-- What a gauge earns the pool holds in the gauge's own mint. -/
theorem Step.held_le (hS : Set.InjOn Custody.address S) (hguarded : Guarded S d)
    (hop : operation.Guarded S d) (h : Step d operation reply d')
    (hgauge : d.engine.registry.gauges.find? target = some g)
    (hother : ¬ ∃ epoch, operation = .ensureEpochGauge target epoch ∧ reply = .flag true)
    (side : FeeSide) :
    (d.tokens.balance (g.fee side).mint (Account.poolFees target side)).toNat +
        operation.earns target side ≤
      (d'.tokens.balance (g.fee side).mint (Account.poolFees target side)).toNat := by
  have hkept : (d.tokens.balance (g.fee side).mint (Account.poolFees target side)).toNat ≤
      (d'.tokens.balance (g.fee side).mint (Account.poolFees target side)).toNat :=
    Nat.not_lt.mp fun hloss => hother (h.capture_of_loss hS hguarded hop hgauge hloss)
  cases h with
  | @accrueFees earner s amount g' pool tokens hearner hearned =>
    by_cases hkey : earner = target ∧ s = side
    · obtain ⟨rfl, rfl⟩ := hkey
      obtain rfl : g = g' := Option.some.inj (hgauge.symm.trans hearner)
      have hgain := TokenLedger.balance_issue (FeePool.accrue_eq_ok hearned).1 (g.fee s).mint
        (Account.poolFees earner s)
      simp only [and_self, if_true] at hgain
      simp [Operation.earns, hgain]
    · simpa [Operation.earns, hkey] using hkept
  | _ => exact hkept

end Deployment
end EpochVoting
